import Stepwise.Env
import Stepwise.Machine.Integer

/-!
Calculations: numbers, variables and operators between them. An expression is read first and then
has a value, with the variables that it sets on the way. Numbers are held in words, and zero stands
for what is false.
-/
namespace Stepwise.Shell.Arithmetic

open Machine (bits wrap takeInteger clamp)

inductive Operator where
  | times | divide | remainder
  | plus | minus
  | shiftLeft | shiftRight
  | less | atMost | greater | atLeast
  | equal | unequal
  | bitAnd
  | bitXor
  | bitOr
  deriving DecidableEq, Repr

namespace Operator

def written : List (String × Operator) :=
  [("<<", shiftLeft), (">>", shiftRight), ("<=", atMost), (">=", atLeast), ("==", equal),
    ("!=", unequal), ("*", times), ("/", divide), ("%", remainder), ("+", plus), ("-", minus),
    ("<", less), (">", greater), ("&", bitAnd), ("^", bitXor), ("|", bitOr)]

def level : Operator → Nat
  | times | divide | remainder => 0
  | plus | minus => 1
  | shiftLeft | shiftRight => 2
  | less | atMost | greater | atLeast => 3
  | equal | unequal => 4
  | bitAnd => 5
  | bitXor => 6
  | bitOr => 7

def loosest : Nat := 7

def changes (op : Operator) : Bool := op.level ≤ 2 || 5 ≤ op.level

end Operator

def truth (b : Bool) : Int := if b then 1 else 0

def shiftFactor (n : Int) : Int := Int.ofNat (Nat.pow 2 (bits n % 64))

inductive Problem where
  | expecting (what : String)
  | divisionByZero
  | notANumber (text : String)
  deriving DecidableEq, Repr

def Problem.message (expression : String) : Problem → String
  | expecting what => "arithmetic expression: expecting " ++ what ++ ": \"" ++ expression ++ "\""
  | divisionByZero => "arithmetic expression: division by zero: \"" ++ expression ++ "\""
  | notANumber text => "Illegal number: " ++ text

def Operator.apply (op : Operator) (a b : Int) : Except Problem Int :=
  match op with
  | times => .ok (wrap (a * b))
  | divide => if b = 0 then .error .divisionByZero else .ok (wrap (Int.tdiv a b))
  | remainder => if b = 0 then .error .divisionByZero else .ok (Int.tmod a b)
  | plus => .ok (wrap (a + b))
  | minus => .ok (wrap (a - b))
  | shiftLeft => .ok (wrap (a * shiftFactor b))
  | shiftRight => .ok (a / shiftFactor b)
  | less => .ok (truth (a < b))
  | atMost => .ok (truth (a ≤ b))
  | greater => .ok (truth (a > b))
  | atLeast => .ok (truth (a ≥ b))
  | equal => .ok (truth (a = b))
  | unequal => .ok (truth (a ≠ b))
  | bitAnd => .ok (wrap (bits a &&& bits b))
  | bitXor => .ok (wrap (bits a ^^^ bits b))
  | bitOr => .ok (wrap (bits a ||| bits b))

inductive Sign where
  | negative
  | not
  | complement
  deriving DecidableEq, Repr

def Sign.apply (sign : Sign) (a : Int) : Int :=
  match sign with
  | negative => wrap (-a)
  | not => truth (a = 0)
  | complement => -a - 1

inductive Expression where
  | number (n : Int)
  | named (name : String)
  | signed (sign : Sign) (e : Expression)
  | binary (op : Operator) (a b : Expression)
  | both (a b : Expression)
  | either (a b : Expression)
  | choice (condition yes no : Expression)
  | assign (name : String) (op : Option Operator) (e : Expression)
  deriving Repr

def variableValue (env : Env) (name : String) : Except Problem Int :=
  let text := (env.get? name).getD ""
  if text = "" then .ok 0
  else match takeInteger true text.toList with
    | (some n, rest) =>
      if rest.all Machine.isPadding && clamp n = n then .ok n else .error (.notANumber text)
    | (none, _) => .error (.notANumber text)

def Expression.value (env : Env) : Expression → Except Problem (Int × Env)
  | number n => .ok (n, env)
  | named name => do return (← variableValue env name, env)
  | signed sign e => do
    let (n, env) ← e.value env
    return (sign.apply n, env)
  | binary op a b => do
    let (m, env) ← a.value env
    let (n, env) ← b.value env
    return (← op.apply m n, env)
  | both a b => do
    let (m, env) ← a.value env
    if m = 0 then return (0, env)
    let (n, env) ← b.value env
    return (truth (n ≠ 0), env)
  | either a b => do
    let (m, env) ← a.value env
    if m ≠ 0 then return (1, env)
    let (n, env) ← b.value env
    return (truth (n ≠ 0), env)
  | choice c a b => do
    let (m, env) ← c.value env
    if m ≠ 0 then a.value env else b.value env
  | assign name op e => do
    let (n, env) ← e.value env
    let n ← match op with
      | none => pure n
      | some op => op.apply (← variableValue env name) n
    return (n, env.set name (toString n))

inductive Lexeme where
  | number (n : Int)
  | name (text : String)
  | operator (op : Operator)
  | change (op : Option Operator)
  | mark (text : String)
  | bad
  deriving DecidableEq

def marks : List String := ["&&", "||", "!", "~", "(", ")", "?", ":"]

def lexemeOf (cs : List Char) : Lexeme × Nat :=
  let starts := fun (text : String) => text.toList.isPrefixOf cs
  let changing := Operator.written.find? fun (text, op) => op.changes && starts (text ++ "=")
  let operator := Operator.written.find? fun (text, _) => starts text
  match changing, marks.find? fun text => text.length = 2 && starts text, operator,
    marks.find? starts with
  | some (text, op), _, _, _ => (.change (some op), text.length + 1)
  | none, some text, _, _ => (.mark text, 2)
  | none, none, some (text, op), _ => (.operator op, text.length)
  | none, none, none, some text => (.mark text, 1)
  | none, none, none, none => if starts "=" then (.change none, 1) else (.bad, 1)

def lexemes : Nat → List Char → List Lexeme
  | 0, _ | _, [] => []
  | fuel + 1, c :: cs =>
    if [' ', '\t', '\n'].contains c then lexemes fuel cs
    else if c.isDigit then
      let (n, rest) := takeInteger true (c :: cs)
      .number (clamp (n.getD 0)) :: lexemes fuel rest
    else if c.isAlpha || c = '_' then
      let inName := fun (c : Char) => c.isAlphanum || c = '_'
      .name (String.ofList (c :: cs.takeWhile inName)) :: lexemes fuel (cs.dropWhile inName)
    else
      let (lexeme, size) := lexemeOf (c :: cs)
      lexeme :: lexemes fuel ((c :: cs).drop size)

abbrev Reader := StateT (List Lexeme) (Except Problem)

def expect (text : String) : Reader Unit := do
  match ← get with
  | .mark t :: rest =>
    if t = text then set rest else throw (.expecting ("'" ++ text ++ "'"))
  | _ => throw (.expecting ("'" ++ text ++ "'"))

def takes (text : String) : Reader Bool := do
  match ← get with
  | .mark t :: rest =>
    if t = text then
      set rest
      return true
    else return false
  | _ => return false

mutual

def readExpression (fuel : Nat) : Reader Expression :=
  match fuel with
  | 0 => throw (.expecting "primary")
  | fuel + 1 => do
    match ← get with
    | .name name :: .change op :: rest =>
      set rest
      return .assign name op (← readExpression fuel)
    | _ => readChoice fuel
  termination_by structural fuel

def readChoice (fuel : Nat) : Reader Expression :=
  match fuel with
  | 0 => throw (.expecting "primary")
  | fuel + 1 => do
    let c ← readEither fuel
    if ← takes "?" then
      let a ← readExpression fuel
      expect ":"
      return .choice c a (← readChoice fuel)
    else return c
  termination_by structural fuel

def readEither (fuel : Nat) : Reader Expression :=
  match fuel with
  | 0 => throw (.expecting "primary")
  | fuel + 1 => do
    let a ← readBoth fuel
    if ← takes "||" then return .either a (← readEither fuel) else return a
  termination_by structural fuel

def readBoth (fuel : Nat) : Reader Expression :=
  match fuel with
  | 0 => throw (.expecting "primary")
  | fuel + 1 => do
    let a ← readBinary Operator.loosest fuel
    if ← takes "&&" then return .both a (← readBoth fuel) else return a
  termination_by structural fuel

def readBinary (level : Nat) (fuel : Nat) : Reader Expression :=
  match fuel with
  | 0 => throw (.expecting "primary")
  | fuel + 1 => do
    let a ← if level = 0 then readPrimary fuel else readBinary (level - 1) fuel
    readBinaryAfter level a fuel
  termination_by structural fuel

def readBinaryAfter (level : Nat) (a : Expression) (fuel : Nat) : Reader Expression :=
  match fuel with
  | 0 => throw (.expecting "primary")
  | fuel + 1 => do
    match ← get with
    | .operator op :: rest =>
      if op.level = level then
        set rest
        let b ← if level = 0 then readPrimary fuel else readBinary (level - 1) fuel
        readBinaryAfter level (.binary op a b) fuel
      else return a
    | _ => return a
  termination_by structural fuel

def readPrimary (fuel : Nat) : Reader Expression :=
  match fuel with
  | 0 => throw (.expecting "primary")
  | fuel + 1 => do
    match ← get with
    | .number n :: rest =>
      set rest
      return .number n
    | .name name :: rest =>
      set rest
      return .named name
    | .operator .plus :: rest =>
      set rest
      readPrimary fuel
    | .operator .minus :: rest =>
      set rest
      return .signed .negative (← readPrimary fuel)
    | .mark "!" :: rest =>
      set rest
      return .signed .not (← readPrimary fuel)
    | .mark "~" :: rest =>
      set rest
      return .signed .complement (← readPrimary fuel)
    | .mark "(" :: rest =>
      set rest
      let e ← readExpression fuel
      expect ")"
      return e
    | _ => throw (.expecting "primary")
  termination_by structural fuel

end

def readingFuel (ls : List Lexeme) : Nat := 16 * ls.length + 16

def expression (cs : List Char) : Except Problem Expression := do
  let ls := lexemes cs.length cs
  match ← (readExpression (readingFuel ls)).run ls with
  | (e, []) => return e
  | _ => throw (.expecting "EOF")

def calculate (env : Env) (cs : List Char) : Except String (Int × Env) :=
  match expression cs >>= Expression.value env with
  | .ok r => .ok r
  | .error e => .error (e.message (String.ofList cs))

end Stepwise.Shell.Arithmetic
