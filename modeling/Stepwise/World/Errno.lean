import Stepwise.Text.Quoted

/-!
The errors of the system, with their numbers and their words.
-/
namespace Stepwise

inductive Errno where
  | notFound
  | argumentsTooLong
  | noExecutable
  | accessDenied
  | notDirectory
  | isDirectory
  | nameTooLong
  deriving DecidableEq, Repr

namespace Errno

def number : Errno → Nat
  | notFound => 2
  | argumentsTooLong => 7
  | noExecutable => 8
  | accessDenied => 13
  | notDirectory => 20
  | isDirectory => 21
  | nameTooLong => 36

def text : Errno → String
  | notFound => "No such file or directory"
  | argumentsTooLong => "Argument list too long"
  | noExecutable => "Exec format error"
  | accessDenied => "Permission denied"
  | notDirectory => "Not a directory"
  | isDirectory => "Is a directory"
  | nameTooLong => "File name too long"

def about (e : Errno) (shown : String) : String :=
  "[Errno " ++ toString e.number ++ "] " ++ e.text ++ ": " ++ shown

def message (e : Errno) (name : String) : String :=
  e.about (Text.quoted name)

end Errno

end Stepwise
