import Stepwise.Decimal.Nearest
import Stepwise.Decimal.Shortest

/-!
Decimal texts of binary floating-point numbers with a given number of digits: `fixed` counts the
digits after the point, `exponential` those after the first one, and `general` all that count. The
number is rounded in exact arithmetic, and a tie goes to the even neighbour.
-/
namespace Stepwise.Decimal

def Binary.rounded (x : Binary) (places : Int) : Nat :=
  nearestWhole (scaleUp (scaleUp x.mantissa 2 x.exponent) 10 places)
    (scaleUp (scaleUp 1 2 (-x.exponent)) 10 (-places))

/-- Digits before and after the point, which stands there if digits follow or it is `marked`. -/
def withPoint (whole fraction : List Char) (marked : Bool) : List Char :=
  whole ++ (if fraction.isEmpty && !marked then [] else '.' :: fraction)

def placed (count places : Nat) : List Char × List Char :=
  let ds := digits count
  let ds := List.replicate (places + 1 - ds.length) '0' ++ ds
  ds.splitAt (ds.length - places)

def leadingDigits (x : Binary) (count : Nat) : Int × List Char :=
  let e := x.leading
  let ds := digits (x.rounded (count - e))
  if ds.length = count + 1 then (e, ds) else (e + 1, ds.take (count + 1))

def exponentText (e : Int) : List Char :=
  let ds := digits e.natAbs
  'e' :: (if e < 0 then '-' else '+') :: List.replicate (2 - ds.length) '0' ++ ds

/-- The most digits after the first one, or after the point, that are not all zeros in the end: the
smallest number is `2 ^ -1074`, and a number has no digit beyond its place of that kind. -/
def longestFraction : Nat := 1074

def zerosAfter (ds : List Char) (count : Nat) : List Char :=
  ds ++ List.replicate (count - longestFraction) '0'

def fixed (x : Option Binary) (count : Nat) (marked : Bool) : List Char :=
  let shown := min count longestFraction
  let (whole, fraction) := placed (x.elim 0 fun b => b.rounded shown) shown
  withPoint whole (zerosAfter fraction count) marked

/-- The text with one digit before the point, `count` after it, and an exponent. -/
def exponential (x : Option Binary) (count : Nat) (marked : Bool) : List Char :=
  let shown := min count longestFraction
  let (e, ds) := x.elim (0, List.replicate (shown + 1) '0') fun b => leadingDigits b shown
  withPoint (ds.take 1) (zerosAfter (ds.drop 1) count) marked ++ exponentText e

def trimZeros (ds : List Char) : List Char := (ds.reverse.dropWhile (· = '0')).reverse

/-- The text with `count` digits that count, in the shorter of the two ways: with an exponent below
-4 and from `count` on. Zeros at the end are left out unless the point is `marked`. -/
def general (x : Option Binary) (count : Nat) (marked : Bool) : List Char :=
  let count := max count 1
  let shown := min (count - 1) longestFraction
  let (e, ds) := x.elim (0, List.replicate (shown + 1) '0') fun b => leadingDigits b shown
  let kept := fun fraction => if marked then zerosAfter fraction (count - 1) else trimZeros fraction
  if e < -4 || (count : Int) ≤ e then
    withPoint (ds.take 1) (kept (ds.drop 1)) marked ++ exponentText e
  else
    let places := (shown - e).toNat
    let (whole, fraction) := placed (x.elim 0 fun b => b.rounded places) places
    withPoint whole (kept fraction) marked

end Stepwise.Decimal
