import Stepwise.Decimal.Places
import Stepwise.Decimal.Whole
import Stepwise.Fault
import Stepwise.Value

/-!
Templates of log messages. A percent sign opens a slot, which says how a value is written: its kind,
the least width, the number of digits or characters, and where to pad. Values are taken in order,
or by name from a map. A template without values is a plain text.
-/
namespace Stepwise.Log.Template

inductive Problem where
  | tooFewValues
  | tooManyValues
  | incomplete
  | incompleteName
  | notAMap
  | unknownName (name : String)
  | unknownKind (letter : Char) (position : Nat)
  | widthNotInteger
  | widthTooLarge
  | precisionTooLarge
  | amountTooLarge (word : String)
  | notANumber (letter : Char) (kind : String)
  | notAnInteger (letter : Char) (kind : String)
  | notReal (kind : String)
  | notACharacter
  | noSuchCharacter
  | tooManyDigits
  | tooLong
  | unconvertible (fault : Fault)

def shownLetter (c : Char) : Char :=
  if 31 ≤ c.toNat && c.toNat ≤ 126 then c else '?'

def Problem.fault : Problem → Fault
  | tooFewValues => .type "not enough arguments for format string"
  | tooManyValues => .type "not all arguments converted during string formatting"
  | incomplete => .value "incomplete format"
  | incompleteName => .value "incomplete format key"
  | notAMap => .type "format requires a mapping"
  | unknownName name => .key name
  | unknownKind c position =>
    .value ("unsupported format character '" ++ String.singleton (shownLetter c) ++ "' (0x" ++
      String.ofList (Nat.toDigits 16 (Text.code c)) ++ ") at index " ++ toString position)
  | widthNotInteger => .type "* wants int"
  | widthTooLarge => .value "width too big"
  | precisionTooLarge => .value "precision too big"
  | amountTooLarge word => .overflow ("Python int too large to convert to C " ++ word)
  | notANumber c kind =>
    .type ("%" ++ String.singleton c ++ " format: a real number is required, not " ++ kind)
  | notAnInteger c kind =>
    .type ("%" ++ String.singleton c ++ " format: an integer is required, not " ++ kind)
  | notReal kind => .type ("must be real number, not " ++ kind)
  | notACharacter => .type "%c requires int or char"
  | noSuchCharacter => .overflow "%c arg not in range(0x110000)"
  | tooManyDigits => .overflow "precision too large"
  | tooLong => .memory
  | unconvertible f => f

/-- The values that are still to be written, and the map that names are looked up in. -/
structure Values where
  rest : List Value
  names : Option (List (Value × Value))

def Values.ofList : List Value → Values
  | [.map (entry :: entries)] => ⟨[.map (entry :: entries)], some (entry :: entries)⟩
  | values => ⟨values, none⟩

def Values.next (v : Values) : Except Problem (Value × Values) :=
  match v.rest with
  | value :: rest => .ok (value, { v with rest := rest })
  | [] => .error .tooFewValues

structure Slot where
  left : Bool
  signed : Bool
  spaced : Bool
  alternate : Bool
  zeros : Bool
  width : Option Nat
  precision : Option Nat
  letter : Char

/-- A kind of amount in a slot: the largest one, the word that holds it, and what is wrong with
digits that say more. -/
structure AmountKind where
  limit : Nat
  word : String
  tooLarge : Problem

def widthKind : AmountKind := ⟨9223372036854775807, "ssize_t", .widthTooLarge⟩

def precisionKind : AmountKind := ⟨2147483647, "int", .precisionTooLarge⟩

/-- An amount in a slot, with the number of characters it takes: digits, or a star for the next of
the values. -/
def readAmount (kind : AmountKind) (cs : List Char) (values : Values) :
    Except Problem (Option Int × Nat × Values) :=
  match cs with
  | '*' :: _ => do
    let (value, values) ← values.next
    match value.int? with
    | some n =>
      if -(kind.limit : Int) - 1 ≤ n ∧ n ≤ kind.limit then return (some n, 1, values)
      else .error (.amountTooLarge kind.word)
    | none => .error .widthNotInteger
  | cs =>
    let ds := cs.takeWhile Char.isDigit
    if ds.isEmpty then .ok (none, 0, values)
    else
      let n := ds.foldl (fun n d => n * 10 + (d.toNat - '0'.toNat)) 0
      if kind.limit < n then .error kind.tooLarge else .ok (some n, ds.length, values)

def nameLength : Nat → List Char → Option Nat
  | _, [] => none
  | depth, c :: cs =>
    if c = ')' then
      match depth with
      | 0 => some 0
      | depth + 1 => (nameLength depth cs).map (· + 1)
    else (nameLength (if c = '(' then depth + 1 else depth) cs).map (· + 1)

def readName (cs : List Char) (values : Values) : Except Problem (Nat × Values) :=
  match cs with
  | '(' :: cs =>
    match values.names, nameLength 0 cs with
    | none, _ => .error .notAMap
    | some _, none => .error .incompleteName
    | some entries, some n =>
      let name := String.ofList (cs.take n)
      match Value.field? entries name with
      | some value => .ok (n + 2, { values with rest := [value] })
      | none => .error (.unknownName name)
  | _ => .ok (0, values)

def isMark (c : Char) : Bool := c = '-' || c = '+' || c = ' ' || c = '#' || c = '0'

def readSlot (cs : List Char) (values : Values) : Except Problem (Slot × Nat × Values) := do
  let (nameSize, values) ← readName cs values
  let cs := cs.drop nameSize
  let marks := cs.takeWhile isMark
  let cs := cs.drop marks.length
  let (width, widthSize, values) ← readAmount widthKind cs values
  let cs := cs.drop widthSize
  let (precision, precisionSize, values) ← match cs with
    | '.' :: cs => do
      let (n, size, values) ← readAmount precisionKind cs values
      pure (some (n.getD 0).toNat, size + 1, values)
    | _ => pure (none, 0, values)
  let cs := cs.drop precisionSize
  let sizeMark := if cs.head?.any fun c => c = 'h' || c = 'l' || c = 'L' then 1 else 0
  match cs.drop sizeMark with
  | [] => .error .incomplete
  | letter :: _ =>
    return (⟨marks.contains '-' || width.any (· < 0), marks.contains '+', marks.contains ' ',
      marks.contains '#', marks.contains '0', width.map Int.natAbs, precision, letter⟩,
      nameSize + marks.length + widthSize + precisionSize + sizeMark + 1, values)

def Slot.pad (slot : Slot) (numeric : Bool) (head body : List Char) : List Char :=
  let missing := slot.width.getD 0 - (head.length + body.length)
  if slot.left then head ++ body ++ List.replicate missing ' '
  else if numeric && slot.zeros then head ++ List.replicate missing '0' ++ body
  else List.replicate missing ' ' ++ head ++ body

def Slot.sign (slot : Slot) (negative : Bool) : List Char :=
  if negative then ['-'] else if slot.signed then ['+'] else if slot.spaced then [' '] else []

def Slot.text (slot : Slot) (cs : List Char) : List Char :=
  slot.pad false [] (match slot.precision with
    | some n => cs.take n
    | none => cs)

def Slot.integer (slot : Slot) (n : Int) : List Char :=
  let ds := match slot.letter with
    | 'o' => Nat.toDigits 8 n.natAbs
    | 'x' => Nat.toDigits 16 n.natAbs
    | 'X' => (Nat.toDigits 16 n.natAbs).map Char.toUpper
    | _ => Nat.toDigits 10 n.natAbs
  let mark := match slot.alternate, slot.letter with
    | true, 'o' => ['0', 'o']
    | true, 'x' => ['0', 'x']
    | true, 'X' => ['0', 'X']
    | _, _ => []
  slot.pad true (slot.sign (n < 0) ++ mark)
    (List.replicate (slot.precision.getD 0 - ds.length) '0' ++ ds)

def Slot.float (slot : Slot) (x : Float) : List Char :=
  let (negative, magnitude) := Decimal.ofBits x.toBits
  let write := fun (b : Option Decimal.Binary) =>
    let count := slot.precision.getD 6
    match slot.letter.toLower with
    | 'f' => Decimal.fixed b count slot.alternate
    | 'e' => Decimal.exponential b count slot.alternate
    | _ => Decimal.general b count slot.alternate
  let (negative, body) := match magnitude with
    | .zero => (negative, write none)
    | .finite b => (negative, write (some b))
    | .infinite => (negative, ['i', 'n', 'f'])
    | .notANumber => (false, ['n', 'a', 'n'])
  slot.pad true (slot.sign negative)
    (if slot.letter.isUpper then body.map Char.toUpper else body)

def wholePart (letter : Char) (v : Value) : Except Problem Int :=
  match v, v.int? with
  | _, some n => .ok n
  | .float x, _ => (Decimal.wholePart x).mapError .unconvertible
  | v, _ => .error (.notANumber letter v.kind)

def asFloat (v : Value) : Except Problem Float :=
  match v, v.int? with
  | .float x, _ => .ok x
  | _, some n => (Decimal.ofInt n).mapError .unconvertible
  | v, none => .error (.notReal v.kind)

def asCharacter (v : Value) : Except Problem Char :=
  match v, v.int? with
  | .text s, _ =>
    match s.toList with
    | [c] => .ok c
    | _ => .error .notACharacter
  | _, some n => if 0 ≤ n ∧ n < 0x110000 then .ok (Text.ofCode n.toNat) else .error .noSuchCharacter
  | _, none => .error .notACharacter

def plainText : Value → List Char
  | .text s => s.toList
  | v => v.display.toList

def asciiOnly (cs : List Char) : List Char :=
  cs.flatMap fun c => if c.toNat < 128 then [c] else Text.numericEscape (Text.code c)

def longestText : Nat := 1073741824

/-- Lays a value out in a slot, unless the slot is wider than any text or asks for more digits. -/
def Slot.layOut (slot : Slot) (layout : Slot → α → List Char) (digits : Nat) (x : α) :
    Except Problem (List Char) :=
  if longestText < max (slot.width.getD 0) digits then .error .tooLong else .ok (layout slot x)

def Slot.layOutInteger (slot : Slot) (n : Int) : Except Problem (List Char) :=
  if precisionKind.limit - 3 < slot.precision.getD 0 then .error .tooManyDigits
  else slot.layOut Slot.integer (slot.precision.getD 0) n

def Slot.write (slot : Slot) (position : Nat) (v : Value) : Except Problem (List Char) :=
  match slot.letter with
  | 's' => slot.layOut Slot.text 0 (plainText v)
  | 'r' => slot.layOut Slot.text 0 v.display.toList
  | 'a' => slot.layOut Slot.text 0 (asciiOnly v.display.toList)
  | 'd' | 'i' | 'u' => do slot.layOutInteger (← wholePart slot.letter v)
  | 'o' | 'x' | 'X' =>
    match v.int? with
    | some n => slot.layOutInteger n
    | none => .error (.notAnInteger slot.letter v.kind)
  | 'e' | 'E' | 'f' | 'F' => do
    slot.layOut Slot.float (slot.precision.getD 0) (← asFloat v)
  | 'g' | 'G' => do
    slot.layOut Slot.float (if slot.alternate then slot.precision.getD 0 else 0) (← asFloat v)
  | 'c' => do slot.layOut (fun slot c => slot.pad false [] [c]) 0 (← asCharacter v)
  | letter => .error (.unknownKind letter position)

def fillFrom (position : Nat) (cs : List Char) (values : Values) : Except Problem (List Char) :=
  match cs with
  | [] => if values.rest.isEmpty || values.names.isSome then .ok [] else .error .tooManyValues
  | '%' :: '%' :: cs => do return '%' :: (← fillFrom (position + 2) cs values)
  | '%' :: cs => do
    let (slot, size, values) ← readSlot cs values
    let (value, values) ← values.next
    let text ← slot.write (position + size) value
    return text ++ (← fillFrom (position + 1 + size) (cs.drop size) values)
  | c :: cs => do return c :: (← fillFrom (position + 1) cs values)
  termination_by cs.length
  decreasing_by all_goals simp only [List.length_drop, List.length_cons]; omega

def fill (template : String) (values : List Value) : Except Problem String :=
  if values.isEmpty then .ok template
  else String.ofList <$> fillFrom 0 template.toList (.ofList values)

end Stepwise.Log.Template
