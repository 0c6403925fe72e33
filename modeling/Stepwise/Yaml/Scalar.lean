import Stepwise.Decimal.Whole
import Stepwise.Value
import Stepwise.Text.Blank
import Stepwise.Text.Digit
import Stepwise.Text.Lines
import Stepwise.Text.Lower
import Stepwise.Yaml.Node

/-!
The values of scalars, by their kind. A scalar whose text is no written form of its kind is a fault,
because its kind says that it has a value; only encoded bytes that cannot be decoded make the
document malformed.
-/
namespace Stepwise.Yaml

inductive Trouble where
  | malformed
  | fault (f : Fault)

abbrev Outcome (α : Type) := Except Trouble α

namespace Outcome

variable {α : Type}

def fault (f : Fault) : Outcome α := .error (.fault f)

def malformed : Outcome α := .error .malformed

end Outcome

namespace Scalar

/-- A character as one of ASCII: a digit of any script as the digit with its value, white space as a
space, and what is neither as a question mark. -/
def asciiChar (c : Char) : Char :=
  if c.toNat < 0x7f then c
  else if Text.isBlank c then ' '
  else ((Text.digitValue? c).map Nat.digitChar).getD '?'

def asciiText (cs : List Char) : List Char :=
  if cs.all fun c => c.toNat < 0x80 then cs else cs.map asciiChar

def isPad (c : Char) : Bool := c = ' ' || (9 ≤ c.toNat && c.toNat ≤ 13)

def withoutMark (base : Nat) (cs : List Char) : List Char :=
  match cs with
  | '0' :: m :: rest =>
    if (base = 2 && (m = 'b' || m = 'B')) || (base = 8 && (m = 'o' || m = 'O')) ||
        (base = 16 && (m = 'x' || m = 'X')) then rest
    else cs
  | cs => cs

def shownLimit : Nat := 200

def notWhole (base : Nat) (cs : List Char) : Fault :=
  .value ("invalid literal for int() with base " ++ toString base ++ ": " ++
    String.ofList ((Text.quoted (String.ofList cs)).toList.take shownLimit))

def tooManyDigits (count : Nat) : Fault :=
  .value ("Exceeds the limit (" ++ toString Value.digitLimit ++
    " digits) for integer string conversion: value has " ++ toString count ++
    " digits; use sys.set_int_max_str_digits() to increase the limit")

def wholeNumber (base : Nat) (cs : List Char) : Outcome Int :=
  let (negative, ds) := Decimal.takeSign ((asciiText cs).dropWhile isPad)
  let ds := withoutMark base ds
  let digits := ds.takeWhile fun d => (Decimal.natOfDigits? base [d]).isSome
  if base = 10 && Value.digitLimit < digits.length then .fault (tooManyDigits digits.length)
  else match Decimal.natOfDigits? base digits, (ds.drop digits.length).dropWhile isPad with
    | some n, [] => .ok (if negative then -(n : Int) else n)
    | _, _ => .fault (notWhole base cs)

def sexagesimal (parts : List Int) : Int :=
  parts.foldl (fun n part => n * 60 + part) 0

def nothingThere : Fault := .index "string index out of range"

def signed (cs : List Char) : Outcome (Bool × List Char) :=
  match cs with
  | [] => .fault nothingThere
  | cs => .ok (Decimal.takeSign cs)

def ungrouped (s : String) : List Char := s.toList.filter (· ≠ '_')

def int (s : String) : Outcome Int := do
  let (negative, cs) ← signed (ungrouped s)
  let n ←
    match cs with
    | [] => .fault nothingThere
    | ['0'] => pure 0
    | '0' :: 'b' :: ds => wholeNumber 2 ds
    | '0' :: 'x' :: ds => wholeNumber 16 ds
    | '0' :: _ => wholeNumber 8 cs
    | cs =>
      if cs.contains ':' then sexagesimal <$> (Text.splitAt ':' cs).mapM (wholeNumber 10)
      else wholeNumber 10 cs
  return if negative then -n else n

def floatNumber (cs : List Char) : Outcome Float :=
  let bare := ((asciiText cs).dropWhile isPad).reverse.dropWhile isPad
  match Decimal.float? bare.reverse with
  | some x => .ok x
  | none =>
    .fault (.value ("could not convert string to float: " ++ Text.quoted (String.ofList cs)))

/-- The sum of parts, each counting sixty times the one after it. Given are the parts from the last
one on, the sum so far and what the next part counts. -/
def floatSexagesimal (sum : Float) (weight : Nat) : List Float → Outcome Float
  | [] => .ok sum
  | part :: parts =>
    match Decimal.ofInt weight with
    | .error f => .fault f
    | .ok w => floatSexagesimal (sum + part * w) (weight * 60) parts

def isSpelledNaN (s : String) : Bool :=
  (Decimal.takeSign (Text.lower (ungrouped s))).2 = ".nan".toList

def float (s : String) : Outcome Float := do
  let (negative, cs) ← signed (Text.lower (ungrouped s))
  let x ←
    if cs = ".inf".toList then pure (1 / 0)
    else if cs = ".nan".toList then pure (0 / 0)
    else if cs.contains ':' then do
      let parts ← (Text.splitAt ':' cs).mapM floatNumber
      floatSexagesimal 0 1 parts.reverse
    else floatNumber cs
  return if negative then -x else x

def bool (s : String) : Outcome Bool :=
  let word := String.ofList (Text.lower s.toList)
  match Tag.truthWords.lookup word with
  | some b => .ok b
  | none => .fault (.key word)

def sextet? (c : Char) : Option Nat :=
  if 'A' ≤ c && c ≤ 'Z' then some (c.toNat - 'A'.toNat)
  else if 'a' ≤ c && c ≤ 'z' then some (c.toNat - 'a'.toNat + 26)
  else if c.isDigit then some (c.toNat - '0'.toNat + 52)
  else if c = '+' then some 62
  else if c = '/' then some 63
  else none

/-- The bytes that characters encode, four characters for three bytes. Others than those of the
alphabet are passed over. Given are the sextets of the group at hand, the last one first, and the
padding met in it. -/
def decodeGroups : List Nat → Nat → List Char → Option (List UInt8)
  | [], _, [] => some []
  | _ :: _, _, [] => none
  | group, pads, c :: cs =>
    if c = '=' then
      if 2 ≤ group.length then
        if 4 ≤ group.length + (pads + 1) then some [] else decodeGroups group (pads + 1) cs
      else decodeGroups group pads cs
    else match sextet? c, group with
      | none, _ => decodeGroups group pads cs
      | some n, [] => decodeGroups [n] 0 cs
      | some n, [a] => ((a * 4 + n / 16).toUInt8 :: ·) <$> decodeGroups [n, a] 0 cs
      | some n, [b, a] => ((b % 16 * 16 + n / 4).toUInt8 :: ·) <$> decodeGroups [n, b, a] 0 cs
      | some n, d :: _ => ((d % 4 * 64 + n).toUInt8 :: ·) <$> decodeGroups [] 0 cs

def binary (s : String) : Outcome (List UInt8) :=
  if s.toList.all fun c => c.toNat < 0x80 then
    match decodeGroups [] 0 s.toList with
    | some bs => .ok bs
    | none => .malformed
  else .malformed

def natOf (ds : List Char) : Nat := (Decimal.natOfDigits? 10 ds).getD 0

def calendar {α : Type} : Except CalendarError α → Outcome α
  | .ok a => .ok a
  | .error e => .fault (.value e.message)

def offsetSeconds (sign : Char) (hours minutes : List Char) : Outcome Int :=
  let seconds : Int := natOf hours * 3600 + natOf minutes * 60
  let seconds := if sign = '-' then -seconds else seconds
  if seconds.natAbs < 86400 then .ok seconds
  else
    let days := Int.fdiv seconds 86400
    let rest := Int.fmod seconds 86400
    .fault (.value ("offset must be a timedelta strictly between -timedelta(hours=24) and " ++
      "timedelta(hours=24), not datetime.timedelta(days=" ++ toString days ++
      (if rest = 0 then "" else ", seconds=" ++ toString rest) ++ ")."))

def stampDate (s : Stamp) : Except CalendarError Date :=
  Date.of (natOf s.year) (natOf s.month) (natOf s.day)

def timestamp (s : String) : Outcome Value :=
  match Stamp.ofText? (withoutLastFeed s.toList) with
  | none => .fault (.member "'NoneType' object has no attribute 'groupdict'")
  | some stamp =>
    match stamp.time with
    | none => Value.date <$> calendar (stampDate stamp)
    | some (hour, minute, second) => do
      let offset ← match stamp.offset with
        | some (sign, hours, minutes) => some <$> offsetSeconds sign hours minutes
        | none => pure (if stamp.universal then some 0 else none)
      let date ← calendar (stampDate stamp)
      let micro := natOf ((stamp.fraction ++ List.replicate 6 '0').take 6)
      let m ← calendar (Moment.of date (natOf hour) (natOf minute) (natOf second) micro offset)
      return .moment m

def value (tag : Tag) (text : String) : Outcome Value :=
  match tag with
  | .null => .ok .null
  | .str => .ok (.text text)
  | .bool => .bool <$> bool text
  | .int => .int <$> int text
  | .float => .float <$> float text
  | .binary => .bytes <$> binary text
  | .timestamp => timestamp text
  | _ => .malformed

end Scalar

end Stepwise.Yaml
