/-!
Rounding a quotient of natural numbers to the nearest whole number.
-/
namespace Stepwise.Decimal

/-- The whole number nearest to a quotient; the even one of two that are equally near. -/
def nearestWhole (num den : Nat) : Nat :=
  let below := num / den
  let twice := 2 * (num % den)
  if twice < den || (twice = den && below % 2 = 0) then below else below + 1

end Stepwise.Decimal
