/-!
The tokens of a YAML text.
-/
namespace Stepwise.Yaml

def codeBound : Nat := 0x110000

abbrev NoCode := { n : Nat // codeBound ≤ n }

inductive Excess where
  | character (code : NoCode)
  | version (digits : Nat)
  deriving DecidableEq, Repr

inductive Directive where
  | version (major minor : Nat)
  | tag (handle value : String)
  | other
  deriving DecidableEq, Repr

inductive Token where
  | directive (content : Directive)
  | documentStart
  | documentEnd
  | blockSequenceStart
  | blockMappingStart
  | blockEnd
  | flowSequenceStart
  | flowSequenceEnd
  | flowMappingStart
  | flowMappingEnd
  | flowEntry
  | blockEntry
  | key
  | value
  | alias (name : String)
  | anchor (name : String)
  | tag (handle : Option String) (rest : String)
  | scalar (text : String) (plain : Bool)
  | unreadable (excess : Excess)
  deriving DecidableEq, Repr

end Stepwise.Yaml
