import Stepwise.Text.Quoted
import Stepwise.Text.Utf8

/-!
Faults that nothing in the program expects: values that cannot be converted, octets that are no text
and the like. They end whatever is going on and are shown as they are.
-/
namespace Stepwise

inductive Fault where
  | undecodable (error : Text.Utf8.Error)
  | unencodable (error : Text.Utf8.EncodeError)
  | unprintable (error : Text.Utf8.EncodeError)
  | value (message : String)
  | type (message : String)
  | key (word : String)
  | index (message : String)
  | member (message : String)
  | overflow (message : String)
  | markup (message : String)
  | system (message : String)
  | memory
  | runtime (message : String)
  deriving DecidableEq, Repr

def Fault.message : Fault → String
  | undecodable error => error.message
  | unencodable error => error.message
  | unprintable error => error.message ++
      "\n*** You may need to add PYTHONIOENCODING=utf-8 to your environment ***"
  | value message | type message | key message | index message | member message
  | overflow message | markup message | system message | runtime message => message
  | memory => ""

def encodeFault? (name : String) : Option Fault :=
  (Text.Utf8.nameError? name.toList).map .unencodable

def nulFault? (name : String) : Option Fault :=
  if name.toList.contains '\x00' then some (.value "embedded null byte") else none

def nameFault? (name : String) : Option Fault := encodeFault? name <|> nulFault? name

end Stepwise
