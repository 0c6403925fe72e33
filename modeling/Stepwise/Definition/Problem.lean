import Stepwise.Value

/-!
What is wrong with a definition, and where. A place is a path of keys and indices from the root of
the definition; it is written with dots before keys and brackets around indices.
-/
namespace Stepwise.Definition

inductive Place where
  | key (name : String)
  | index (n : Int)
  deriving DecidableEq, Repr

namespace Place

def indexLimit : Int := 9223372036854775808

def shownKey (s : String) : String :=
  String.ofList (s.toList.flatMap fun c =>
    if Text.isLone c then List.replicate 3 '\ufffd' else [c])

def ofKey (key : Value) : Place :=
  match key with
  | .text s => .key (shownKey s)
  | key =>
    match key.int? with
    | some n =>
      if -indexLimit ≤ n ∧ n < indexLimit then .index n
      else .key ((Value.wholeText? n).getD "<unprintable int object>")
    | none => .key key.display

def extend (path : String) : Place → String
  | key name => if path = "" then name else path ++ "." ++ name
  | index n => path ++ "[" ++ toString n ++ "]"

def whole : String := "(root)"

def pathText (path : List Place) : String :=
  let text := path.foldl extend ""
  if text = "" then whole else text

end Place

inductive Complaint where
  | noList
  | noText
  /-- Bytes that encode no text, or a text that has no octets. -/
  | noUnicode
  | noMap
  /-- Neither a map nor a part of this kind. -/
  | noPart (part : String)
  | missing
  | noMode
  | wrongKind
  | wrongVersion
  | noSteps
  | noSlug
  | lineUnreadable (line : String) (error : CommandLine.SplitError)
  | commandMissing
  deriving DecidableEq, Repr

def Complaint.message : Complaint → String
  | noList => "Input should be a valid list"
  | noText => "Input should be a valid string"
  | noUnicode => "Input should be a valid string, unable to parse raw data as a unicode string"
  | noMap => "Input should be a valid dictionary"
  | noPart part => "Input should be a valid dictionary or instance of " ++ part
  | missing => "Field required"
  | noMode => "Input should be 'fix' or 'check'"
  | wrongKind => "Input should be 'Pipeline'"
  | wrongVersion => "Input should be 'buildpipe/v1'"
  | noSteps => "List should have at least 1 item after validation, not 0"
  | noSlug => "String should match pattern '^[a-z0-9][a-z0-9-]*[a-z0-9]$'"
  | lineUnreadable line error =>
    "Value error, invalid command line " ++ Text.quoted line ++ ": " ++ error.message
  | commandMissing => "Value error, command must not be empty"

structure Problem where
  place : List Place
  complaint : Complaint
  deriving DecidableEq, Repr

namespace Problem

def inside (p : Place) (problem : Problem) : Problem :=
  { problem with place := p :: problem.place }

def message (problem : Problem) : String :=
  "  " ++ Place.pathText problem.place ++ ": " ++ problem.complaint.message

def report (problems : List Problem) : String :=
  "\n".intercalate (problems.map message)

end Problem

end Stepwise.Definition
