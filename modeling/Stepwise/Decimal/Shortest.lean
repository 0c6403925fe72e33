/-!
The shortest decimal text of a binary floating-point number. A finite number is a mantissa times a
power of two, and every real between the midpoints to its neighbours reads back as it.
`Binary.shortest?` looks for the coarsest decimal grid with a point between those midpoints and
takes the point nearest to the number, in exact arithmetic. `floatText` lays the digits out:
positional for exponents from -4 to 15, with an exponent otherwise, and always with a mark that
tells the text from an integer.
-/
namespace Stepwise.Decimal

/-- The positive number `mantissa * 2 ^ exponent`. `narrow` says that the neighbour below is half
as far as the one above, which is so at a power of two. -/
structure Binary where
  mantissa : Nat
  exponent : Int
  narrow : Bool
  deriving DecidableEq, Repr

def digits (n : Nat) : List Char :=
  Nat.toDigits 10 n

def scaleUp (n base : Nat) (k : Int) : Nat :=
  n * Nat.pow base k.toNat

namespace Binary

/-- The number in quarters of the mantissa's unit, so that the midpoints are whole. -/
def quarters (x : Binary) : Nat := 4 * x.mantissa

def lower (x : Binary) : Nat := x.quarters - if x.narrow then 1 else 2

def upper (x : Binary) : Nat := x.quarters + 2

def endsCount (x : Binary) : Bool := x.mantissa % 2 = 0

def unit (x : Binary) : Int := x.exponent - 2

def scaled (x : Binary) (grid : Int) (n : Nat) : Nat :=
  scaleUp (scaleUp n 2 x.unit) 10 (-grid)

def gridStep (x : Binary) (grid : Int) : Nat :=
  scaleUp (scaleUp 1 2 (-x.unit)) 10 grid

def leading (x : Binary) : Int :=
  let num := scaleUp x.quarters 2 x.unit
  let den := scaleUp 1 2 (-x.unit)
  let guess : Int := (digits num).length - (digits den).length
  if scaleUp den 10 guess ≤ scaleUp num 10 (-guess) then guess else guess - 1

def readsBack (x : Binary) (grid : Int) (n : Nat) : Bool :=
  let value := n * x.gridStep grid
  let low := x.scaled grid x.lower
  let high := x.scaled grid x.upper
  if x.endsCount then low ≤ value && value ≤ high else low < value && value < high

/-- The point of the grid that reads back and is nearest to the number; the even one of two that
are equally near. -/
def onGrid? (x : Binary) (grid : Int) : Option Nat :=
  let value := x.scaled grid x.quarters
  let step := x.gridStep grid
  let below := value / step
  let above := below + 1
  match x.readsBack grid below, x.readsBack grid above with
  | true, false => some below
  | false, true => some above
  | false, false => none
  | true, true =>
    let down := value - below * step
    let up := above * step - value
    some (if down < up || (down = up && below % 2 = 0) then below else above)

def firstGrid? (x : Binary) (grid : Int) : Nat → Option (Nat × Int)
  | 0 => none
  | count + 1 =>
    match x.onGrid? grid with
    | some n => some (n, grid)
    | none => x.firstGrid? (grid - 1) count

/-- The fewest digits that read back, and the exponent of ten of the last one. Seventeen digits
tell any two numbers apart; one more grid covers a number next to a power of ten. -/
def shortest? (x : Binary) : Option (Nat × Int) :=
  x.firstGrid? x.leading 18

end Binary

inductive Magnitude where
  | zero
  | finite (value : Binary)
  | infinite
  | notANumber
  deriving DecidableEq, Repr

def ofBits (bits : UInt64) : Bool × Magnitude :=
  let n := bits.toNat
  let negative := n / Nat.pow 2 63 = 1
  let exponent := n / Nat.pow 2 52 % 2048
  let fraction := n % Nat.pow 2 52
  if exponent = 2047 then (negative, if fraction = 0 then .infinite else .notANumber)
  else if exponent = 0 then
    (negative, if fraction = 0 then .zero else .finite ⟨fraction, -1074, false⟩)
  else
    (negative, .finite
      ⟨Nat.pow 2 52 + fraction, Int.ofNat exponent - 1075, fraction = 0 && 1 < exponent⟩)

def truncate (x : Float) : Int :=
  match ofBits x.toBits with
  | (negative, .finite b) =>
    let whole : Int := scaleUp b.mantissa 2 b.exponent / scaleUp 1 2 (-b.exponent)
    if negative then -whole else whole
  | _ => 0

/-- Digits without the zeros that end them, and the number of zeros dropped. -/
def stripZeros (ds : List Char) : List Char × Nat :=
  let kept := (ds.reverse.dropWhile (· = '0')).reverse
  (kept, ds.length - kept.length)

def positional (ds : List Char) (point : Int) : List Char :=
  if point ≤ 0 then '0' :: '.' :: List.replicate (-point).toNat '0' ++ ds
  else
    let whole := ds.take point.toNat
    let padded := whole ++ List.replicate (point.toNat - whole.length) '0'
    let rest := ds.drop point.toNat
    padded ++ '.' :: (if rest.isEmpty then ['0'] else rest)

/-- Digits with the point after the first and an exponent of at least two digits. -/
def scientific (ds : List Char) (exponent : Int) : List Char :=
  let mantissa := match ds with
    | d :: e :: rest => d :: '.' :: e :: rest
    | ds => ds
  let size := digits exponent.natAbs
  mantissa ++ 'e' :: (if exponent < 0 then '-' else '+') ::
    (if size.length < 2 then '0' :: size else size)

def Magnitude.text : Magnitude → List Char
  | zero => "0.0".toList
  | infinite => "inf".toList
  | notANumber => "nan".toList
  | finite x =>
    match x.shortest? with
    | none => "nan".toList
    | some (n, grid) =>
      let (ds, dropped) := stripZeros (digits n)
      let point := ds.length + dropped + grid
      if -4 < point && point ≤ 16 then positional ds point else scientific ds (point - 1)

def floatText (x : Float) : String :=
  let (negative, magnitude) := ofBits x.toBits
  let text := magnitude.text
  String.ofList (if negative && magnitude ≠ .notANumber then '-' :: text else text)

end Stepwise.Decimal
