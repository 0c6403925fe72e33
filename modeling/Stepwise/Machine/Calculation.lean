import Stepwise.Machine.Effect
import Stepwise.Machine.Integer

/-!
Calculations with arguments: what `expr` makes of numbers, texts and the operators between them. A
text that is a number is compared as one.
-/
namespace Stepwise.Machine.Calculation

inductive Problem where
  | notInteger
  | divisionByZero
  | missingAfter (arg : String)
  | notClosed (arg : String)
  | unexpected (arg : String)

def Problem.message : Problem → String
  | notInteger => "non-integer argument"
  | divisionByZero => "division by zero"
  | missingAfter arg => "syntax error: missing argument after '" ++ arg ++ "'"
  | notClosed arg => "syntax error: expecting ')' after '" ++ arg ++ "'"
  | unexpected arg => "syntax error: unexpected argument '" ++ arg ++ "'"

def levels : List (List String) :=
  [["|"], ["&"], ["<", "<=", "=", "==", "!=", ">=", ">"], ["+", "-"], ["*", "/", "%"]]

def number? (s : String) : Option Int :=
  let ds := match s.toList with
    | '-' :: cs => cs
    | cs => cs
  if !ds.isEmpty && ds.all Char.isDigit then s.toInt? else none

def isNull (s : String) : Bool := s = "" || number? s = some 0

def truth (b : Bool) : String := if b then "1" else "0"

def compares (op : String) (order : Ordering) : Bool :=
  match op with
  | "<" => order = .lt
  | "<=" => order ≠ .gt
  | "=" | "==" => order = .eq
  | "!=" => order ≠ .eq
  | ">=" => order ≠ .lt
  | _ => order = .gt

def apply (op a b : String) : Except Problem String :=
  let numbers := fun (f : Int → Int → Except Problem Int) =>
    match number? a, number? b with
    | some m, some n => toString <$> f m n
    | _, _ => .error .notInteger
  match op with
  | "|" => .ok (if !isNull a then a else if b = "" then "0" else b)
  | "&" => .ok (if isNull a || isNull b then "0" else a)
  | "+" => numbers fun m n => .ok (m + n)
  | "-" => numbers fun m n => .ok (m - n)
  | "*" => numbers fun m n => .ok (m * n)
  | "/" => numbers fun m n => if n = 0 then .error .divisionByZero else .ok (Int.tdiv m n)
  | "%" => numbers fun m n => if n = 0 then .error .divisionByZero else .ok (Int.tmod m n)
  | op =>
    let order := match number? a, number? b with
      | some m, some n => compare m n
      | _, _ => compare a b
    .ok (truth (compares op order))

structure Rest where
  args : List String
  last : String

mutual

def value (level : List (List String)) (rest : Rest) (fuel : Nat) :
    Except Problem (String × Rest) :=
  match fuel with
  | 0 => .error (.missingAfter rest.last)
  | fuel + 1 =>
    match level with
    | [] => atom rest fuel
    | ops :: tighter => do
      let (a, rest) ← value tighter rest fuel
      valueAfter ops tighter a rest fuel
  termination_by structural fuel

def valueAfter (ops : List String) (tighter : List (List String)) (a : String) (rest : Rest)
    (fuel : Nat) : Except Problem (String × Rest) :=
  match fuel with
  | 0 => .error (.missingAfter rest.last)
  | fuel + 1 =>
    match rest.args with
    | op :: args =>
      if ops.contains op then do
        let (b, rest) ← value tighter ⟨args, op⟩ fuel
        valueAfter ops tighter (← apply op a b) rest fuel
      else .ok (a, rest)
    | [] => .ok (a, rest)
  termination_by structural fuel

def atom (rest : Rest) (fuel : Nat) : Except Problem (String × Rest) :=
  match fuel with
  | 0 => .error (.missingAfter rest.last)
  | fuel + 1 =>
    match rest.args with
    | [] => .error (.missingAfter rest.last)
    | "(" :: args => do
      let (a, rest) ← value levels ⟨args, "("⟩ fuel
      match rest.args with
      | ")" :: args => return (a, ⟨args, ")"⟩)
      | _ => throw (.notClosed rest.last)
    | "length" :: a :: args => .ok (toString a.utf8ByteSize, ⟨args, a⟩)
    | "+" :: a :: args => .ok (a, ⟨args, a⟩)
    | ")" :: _ => .error (.unexpected ")")
    | a :: args => .ok (a, ⟨args, a⟩)
  termination_by structural fuel

end

def effect (who : String) (args : List String) (w : World) : Effect :=
  let fuel := 16 * args.length + 16
  let result := do
    match ← value levels ⟨args, ""⟩ fuel with
    | (a, ⟨[], _⟩) => .ok a
    | (_, ⟨extra :: _, _⟩) => .error (Problem.unexpected extra)
  match args, result with
  | [], _ => .misuse w 2 who "missing operand"
  | _, .ok a => { Effect.saying w (octets (a ++ "\n")) with
      ended := .exited (if isNull a then 1 else 0) }
  | _, .error problem => .complaint w 2 (who ++ ": " ++ problem.message)

end Stepwise.Machine.Calculation
