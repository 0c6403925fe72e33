/-!
Integers as the arguments of programs write them. An integer may have blanks and a sign in front,
and a mark that says its base; it is held in a word, and one that does not fit is as near as the
word allows.
-/
namespace Stepwise.Machine

def isPadding (c : Char) : Bool :=
  c = ' ' || ('\t' ≤ c && c ≤ '\r')

def digitOf? (c : Char) : Option Nat :=
  if c.isDigit then some (c.toNat - '0'.toNat)
  else if 'a' ≤ c && c ≤ 'z' then some (c.toNat - 'a'.toNat + 10)
  else if 'A' ≤ c && c ≤ 'Z' then some (c.toNat - 'A'.toNat + 10)
  else none

def digitsOf (base : Nat) (cs : List Char) : List Nat :=
  (cs.takeWhile fun c => (digitOf? c).any (· < base)).filterMap digitOf?

def ofDigits (base : Nat) (ds : List Nat) : Nat := ds.foldl (fun n d => n * base + d) 0

def baseMark (cs : List Char) : Nat × Nat :=
  match cs with
  | '0' :: 'x' :: c :: _ | '0' :: 'X' :: c :: _ =>
    if (digitOf? c).any (· < 16) then (16, 2) else (8, 0)
  | '0' :: _ => (8, 0)
  | _ => (10, 0)

def takeInteger (marked : Bool) (cs : List Char) : Option Int × List Char :=
  let body := cs.dropWhile isPadding
  let (negative, unsigned) := match body with
    | '-' :: rest => (true, rest)
    | '+' :: rest => (false, rest)
    | rest => (false, rest)
  let (base, skipped) := if marked then baseMark unsigned else (10, 0)
  let ds := digitsOf base (unsigned.drop skipped)
  if ds.isEmpty then (none, cs)
  else
    let n := ofDigits base ds
    (some (if negative then -(n : Int) else n), unsigned.drop (skipped + ds.length))

def wordMax : Int := 9223372036854775807

def clamp (n : Int) : Int := max (-wordMax - 1) (min wordMax n)

def wordRange : Nat := 18446744073709551616

def wrap (n : Int) : Int := Int.bmod n wordRange

def bits (n : Int) : Nat := (Int.emod n wordRange).toNat

def integer? (marked : Bool) (s : String) : Option Int :=
  match takeInteger marked s.toList with
  | (some n, rest) => if rest.all isPadding then some (clamp n) else none
  | (none, _) => none

def count? (s : String) : Option Nat :=
  match integer? false s with
  | some n => if 0 ≤ n ∧ n ≤ 2147483647 then some n.toNat else none
  | none => none

end Stepwise.Machine
