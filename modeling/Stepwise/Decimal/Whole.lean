import Stepwise.Decimal.Read
import Stepwise.Decimal.Shortest
import Stepwise.Fault

/-!
Whole numbers as floating-point numbers, and the whole parts of these. A whole number may be too
large, and infinity and what is no number have no whole part.
-/
namespace Stepwise.Decimal

def ofInt (n : Int) : Except Fault Float :=
  let x := nearest n.natAbs 0
  if x.isInf then .error (.overflow "int too large to convert to float")
  else .ok (if n < 0 then -x else x)

def wholePart (x : Float) : Except Fault Int :=
  match (ofBits x.toBits).2 with
  | .infinite => .error (.overflow "cannot convert float infinity to integer")
  | .notANumber => .error (.value "cannot convert float NaN to integer")
  | _ => .ok (truncate x)

end Stepwise.Decimal
