/-!
Reading numbers. A decimal has digits, at most one point among them, and perhaps an exponent; words
stand for infinity and for what is no number. The number nearest to a decimal is taken, and one that
is too large or too small for any becomes infinity or zero.
-/
namespace Stepwise.Decimal

/-- The number that digits write in a base, or nothing if one of them is no digit of that base. -/
def natOfDigits? (base : Nat) (ds : List Char) : Option Nat :=
  if ds.isEmpty then none
  else ds.foldl (fun acc c =>
    let d :=
      if c.isDigit then c.toNat - '0'.toNat
      else if 'a' ≤ c && c ≤ 'z' then c.toNat - 'a'.toNat + 10
      else if 'A' ≤ c && c ≤ 'Z' then c.toNat - 'A'.toNat + 10
      else base
    if d < base then acc.map (· * base + d) else none) (some 0)

def takeSign : List Char → Bool × List Char
  | '-' :: cs => (true, cs)
  | '+' :: cs => (false, cs)
  | cs => (false, cs)

def exponentBound : Nat := 400

def nearest (mantissa : Nat) (exponent : Int) : Float :=
  let size : Int := (Nat.toDigits 10 mantissa).length + exponent
  if mantissa = 0 then 0
  else if (exponentBound : Int) < size then 1 / 0
  else if size < -(exponentBound : Int) then 0
  else Float.ofScientific mantissa (exponent < 0) exponent.natAbs

def exponent? : List Char → Option Int
  | [] => some 0
  | c :: cs =>
    if c = 'e' || c = 'E' then
      let (negative, ds) := takeSign cs
      (natOfDigits? 10 ds).map fun n => if negative then -(n : Int) else n
    else none

def unsigned? (cs : List Char) : Option Float :=
  let word := cs.map Char.toLower
  if word = "inf".toList || word = "infinity".toList then some (1 / 0)
  else if word = "nan".toList then some (0 / 0)
  else
    let whole := cs.takeWhile Char.isDigit
    let rest := cs.dropWhile Char.isDigit
    let (fraction, rest) := match rest with
      | '.' :: rest => (rest.takeWhile Char.isDigit, rest.dropWhile Char.isDigit)
      | rest => ([], rest)
    match natOfDigits? 10 (whole ++ fraction), exponent? rest with
    | some n, some e => some (nearest n (e - fraction.length))
    | _, _ => none

def float? (cs : List Char) : Option Float :=
  let (negative, rest) := takeSign cs
  (unsigned? rest).map fun x => if negative then -x else x

end Stepwise.Decimal
