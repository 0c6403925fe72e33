import Stepwise.Machine.Effect
import Stepwise.Machine.Integer

/-!
Tests: what `test` and `[` say of their arguments. An argument is a test if it is not empty;
operators test one argument or compare two, and tests are negated, joined and put in brackets. Three
arguments with an operator in the middle are a comparison, whatever the others look like.
-/
namespace Stepwise.Machine.Test

inductive Problem where
  | notANumber (arg : String)
  | unexpected (arg : String)
  | argumentMissing (op : String)
  | notUnary (arg : String)
  | notBinary (arg : String)
  | notClosed

def aboutArgument (arg text : String) : String := if arg = "" then text else arg ++ ": " ++ text

def Problem.message (builtIn : Bool) : Problem → String
  | notANumber arg =>
    if builtIn then "Illegal number: " ++ arg else "invalid integer '" ++ arg ++ "'"
  | unexpected arg =>
    if builtIn then aboutArgument arg "unexpected operator" else "extra argument '" ++ arg ++ "'"
  | argumentMissing op => aboutArgument op "argument expected"
  | notUnary arg =>
    if arg.startsWith "-" then "'" ++ arg ++ "': unary operator expected"
    else "missing argument after '" ++ arg ++ "'"
  | notBinary arg => "'" ++ arg ++ "': binary operator expected"
  | notClosed => "closing paren expected"

def unaryOps : List String :=
  ["-r", "-w", "-x", "-f", "-d", "-c", "-b", "-p", "-u", "-g", "-k", "-s", "-t", "-z", "-n", "-h",
    "-O", "-G", "-L", "-S", "-e"]

def binaryOps : List String :=
  ["=", "!=", "<", ">", "-eq", "-ne", "-gt", "-ge", "-lt", "-le", "-nt", "-ot", "-ef"]

def unary (w : World) (op arg : String) : Except Problem Bool :=
  let device := (w.find arg).toOption.any isDevice
  let entry := (w.get arg).toOption
  match op with
  | "-n" => .ok (arg ≠ "")
  | "-z" => .ok (arg = "")
  | "-e" | "-r" | "-w" | "-O" | "-G" => .ok entry.isSome
  | "-d" => .ok (entry = some .directory)
  | "-c" => .ok device
  | "-f" => .ok (match entry with
    | some (.file _ _) => !device
    | _ => false)
  | "-s" => .ok (match entry with
    | some (.file bytes _) => !device && !bytes.isEmpty
    | some .directory => true
    | none => false)
  | "-x" => .ok (match entry with
    | some (.file _ executable) => executable
    | some .directory => true
    | none => false)
  | "-t" => if (integer? false arg).isSome then .ok false else .error (.notANumber arg)
  | _ => .ok false

def binary (w : World) (a op b : String) : Except Problem Bool := do
  let number := fun (s : String) => match integer? false s with
    | some n => Except.ok n
    | none => .error (.notANumber s)
  match op with
  | "=" => return a = b
  | "!=" => return a ≠ b
  | "<" => return a < b
  | ">" => return b < a
  | "-eq" => return (← number a) = (← number b)
  | "-ne" => return (← number a) ≠ (← number b)
  | "-gt" => return (← number b) < (← number a)
  | "-ge" => return (← number b) ≤ (← number a)
  | "-lt" => return (← number a) < (← number b)
  | "-le" => return (← number a) ≤ (← number b)
  | "-ef" => return match w.find a, w.find b with
    | .ok p, .ok q => p = q
    | _, _ => false
  | _ => return false

def standsAlone : List String → Bool
  | [] => true
  | [_] => false
  | op :: _ => binaryOps.contains op

mutual

def anyOf (w : World) (args : List String) : Nat → Except Problem (Bool × List String)
  | 0 => .error .notClosed
  | fuel + 1 => do
    let (r, rest) ← allOf w args fuel
    match rest with
    | "-o" :: rest =>
      let (s, rest) ← anyOf w rest fuel
      return (r || s, rest)
    | rest => return (r, rest)

def allOf (w : World) (args : List String) : Nat → Except Problem (Bool × List String)
  | 0 => .error .notClosed
  | fuel + 1 => do
    let (r, rest) ← one w args fuel
    match rest with
    | "-a" :: rest =>
      let (s, rest) ← allOf w rest fuel
      return (r && s, rest)
    | rest => return (r, rest)

def one (w : World) (args : List String) : Nat → Except Problem (Bool × List String)
  | 0 => .error .notClosed
  | fuel + 1 =>
    match args with
    | [] => .ok (false, [])
    | "!" :: rest => do
      let (r, rest) ← one w rest fuel
      return (!r, rest)
    | "(" :: ")" :: rest => .ok (false, rest)
    | "(" :: next :: rest => do
      match ← anyOf w (next :: rest) fuel with
      | (r, ")" :: rest) => return (r, rest)
      | _ => .error .notClosed
    | a :: rest =>
      if unaryOps.contains a && !standsAlone rest then do
        return (← unary w a (rest.headD ""), rest.drop 1)
      else match rest with
        | op :: rest' =>
          if binaryOps.contains op then
            match rest' with
            | b :: more => do return (← binary w a op b, more)
            | [] => .error (.argumentMissing op)
          else .ok (a ≠ "", rest)
        | [] => .ok (a ≠ "", [])

end

def whole (w : World) (args : List String) : Except Problem Bool := do
  let (r, rest) ← anyOf w args (4 * args.length + 4)
  if rest.isEmpty then return r
  else .error (.unexpected (args.getD (args.length - rest.length - 1) ""))

def holds (w : World) : List String → Except Problem Bool
  | [] => .ok false
  | [a, op, b] =>
    if binaryOps.contains op then binary w a op b
    else if a = "!" then (!·) <$> whole w [op, b]
    else if a = "(" && b = ")" then whole w [op]
    else whole w [a, op, b]
  | ["!", a, b, c] =>
    if binaryOps.contains b then (!·) <$> binary w a b c else (!·) <$> whole w [a, b, c]
  | ["(", a, b, ")"] => whole w [a, b]
  | args => whole w args

/-- What the program finds wrong with a few arguments before it looks at more than their number. -/
def misuse? : List String → Option Problem
  | [a, b] =>
    if a = "!" || unaryOps.contains a then none
    else some (.notUnary (if a.startsWith "-" then a else b))
  | [a, b, c] =>
    if binaryOps.contains b || a = "!" || (a = "(" && c = ")") || b = "-a" || b = "-o" then none
    else some (.notBinary b)
  | _ => none

def effect (builtIn : Bool) (w : World) (who : String) (args : List String) : Effect :=
  let misused := if builtIn then none else misuse? args
  match misused.elim (holds w args) .error with
  | .ok true => .silent w 0
  | .ok false => .silent w 1
  | .error e => .complaint w 2 (who ++ ": " ++ e.message builtIn)

end Stepwise.Machine.Test
