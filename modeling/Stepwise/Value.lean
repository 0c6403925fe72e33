import Stepwise.Calendar
import Stepwise.Step
import Stepwise.Text.Quoted

/-!
Values as data files and callers give them, before they are known to be a step, a pipeline or a
definition. The words for the kinds of value are those that messages use.
-/
namespace Stepwise

/-- A value of any kind. A map keeps its entries in order. -/
inductive Value where
  | null
  | bool (value : Bool)
  | int (value : Int)
  | float (value : Float)
  | text (value : String)
  | bytes (value : List UInt8)
  | date (value : Date)
  | moment (value : Moment)
  | list (items : List Value)
  | tuple (items : List Value)
  | set (items : List Value)
  | map (entries : List (Value × Value))
  | step (value : Step)

namespace Value

instance : Inhabited Value := ⟨null⟩

def kind : Value → String
  | null => "NoneType"
  | bool _ => "bool"
  | int _ => "int"
  | float _ => "float"
  | text _ => "str"
  | bytes _ => "bytes"
  | date _ => "date"
  | moment _ => "datetime"
  | list _ => "list"
  | tuple _ => "tuple"
  | set _ => "set"
  | map _ => "dict"
  | step _ => "Step"

/-- The values that a value is made of, if it is made of any: a map of its keys, a text of its
characters, bytes of their numbers. -/
def elements? : Value → Option (List Value)
  | list items | tuple items | set items => some items
  | map entries => some (entries.map Prod.fst)
  | text s => some (s.toList.map fun c => text (String.singleton c))
  | bytes bs => some (bs.map fun b => int b.toNat)
  | null | bool _ | int _ | float _ | date _ | moment _ | step _ => none

def isNothing : Value → Bool
  | null => true
  | bool b => !b
  | int n => n = 0
  | float x => x == 0
  | text s => s = ""
  | bytes bs => bs.isEmpty
  | list items | tuple items | set items => items.isEmpty
  | map entries => entries.isEmpty
  | date _ | moment _ | step _ => false

def floatIsInt (x : Float) (n : Int) : Bool :=
  match Decimal.ofBits x.toBits with
  | (_, .zero) => n = 0
  | (negative, .finite b) =>
    (n < 0) = negative &&
      Decimal.scaleUp n.natAbs 2 (-b.exponent) = Decimal.scaleUp b.mantissa 2 b.exponent
  | _ => false

def digitLimit : Nat := 4300

def wholeText? (n : Int) : Option String :=
  let s := toString n
  if digitLimit < (toString n.natAbs).length then none else some s

def int? : Value → Option Int
  | bool b => some (if b then 1 else 0)
  | int n => some n
  | _ => none

mutual

/-- Whether two values are the same key of a map: numbers by their value, whatever their kind. -/
def sameKey : Value → Value → Bool
  | null, null => true
  | text a, text b => a = b
  | bytes a, bytes b => a = b
  | date a, date b => a = b
  | moment a, moment b => a.same b
  | float x, float y => x == y
  | float x, w => w.int?.any (floatIsInt x)
  | bool a, w => sameNumber (if a then 1 else 0) w
  | int a, w => sameNumber a w
  | tuple a, tuple b => sameKeys a b
  | step a, step b => a.same b
  | _, _ => false
where
  sameNumber (n : Int) : Value → Bool
    | float x => floatIsInt x n
    | w => w.int? = some n

def sameKeys : List Value → List Value → Bool
  | [], [] => true
  | a :: as, b :: bs => sameKey a b && sameKeys as bs
  | _, _ => false

end

def setEntry (key value : Value) : List (Value × Value) → List (Value × Value)
  | [] => [(key, value)]
  | (k, v) :: rest =>
    if k.sameKey key then (k, value) :: rest else (k, v) :: setEntry key value rest

def ofEntries (entries : List (Value × Value)) : Value :=
  map (entries.foldl (fun acc e => setEntry e.1 e.2 acc) [])

def field? (entries : List (Value × Value)) (name : String) : Option Value :=
  (entries.find? fun e => match e.1 with
    | text s => s = name
    | _ => false).map Prod.snd

mutual

def canBeKey : Value → Bool
  | list _ | set _ | map _ => false
  | tuple items => canBeKeys items
  | _ => true

def canBeKeys : List Value → Bool
  | [] => true
  | v :: vs => canBeKey v && canBeKeys vs

end

def listed (parts : List String) : String := ", ".intercalate parts

def displayStep (s : Step) : String :=
  let command := s.command.map Text.quoted
  "Step(command=(" ++ listed command ++ (if command.length = 1 then "," else "") ++
    "), description=" ++ Text.quoted s.description ++ ", env=mappingproxy(\x7b" ++
    listed (s.env.pairs.map fun p => Text.quoted p.1 ++ ": " ++ Text.quoted p.2) ++ "\x7d), cwd=" ++
    (match s.cwd with
      | some (.text dir) => Text.quoted dir
      | some (.path p _) => p.display
      | none => "None") ++ ")"

mutual

def display : Value → String
  | null => "None"
  | bool b => if b then "True" else "False"
  | int n => toString n
  | float x => Decimal.floatText x
  | text s => Text.quoted s
  | bytes bs => Text.quotedBytes bs
  | date d => d.display
  | moment m => m.display
  | tuple [v] => "(" ++ display v ++ ",)"
  | tuple vs => "(" ++ displayAll vs ++ ")"
  | list vs => "[" ++ displayAll vs ++ "]"
  | set vs => if vs.isEmpty then "set()" else "\x7b" ++ displayAll vs ++ "\x7d"
  | map entries => "\x7b" ++ displayEntries entries ++ "\x7d"
  | step s => displayStep s

def displayAll : List Value → String
  | [] => ""
  | [v] => display v
  | v :: vs => display v ++ ", " ++ displayAll vs

def displayEntries : List (Value × Value) → String
  | [] => ""
  | [(k, v)] => display k ++ ": " ++ display v
  | (k, v) :: rest => display k ++ ": " ++ display v ++ ", " ++ displayEntries rest

end

end Value

end Stepwise
