/-!
Reading the arguments of a command. Options have long names, which a value may follow after an equal
sign, and letters, of which several may stand together. An option that takes a value takes whatever
comes next. Two hyphens end the options; what is left are the operands.
-/
namespace Stepwise.Cli

inductive Effect (α : Type) where
  | flag (set : α → α)
  | valued (set : String → α → α)

structure OptionSpec (α : Type) where
  name : String
  letter : Option Char
  effect : Effect α

inductive UsageError where
  | unknownOption (name : String)
  | valueMissing (name : String)
  | valueUnexpected (name : String)
  | unknownCommand (name : String)
  | operandUnexpected (operand : String)
  | pathUnusable (path : String)
  deriving DecidableEq, Repr

def UsageError.message : UsageError → String
  | unknownOption name => "No such option: " ++ name
  | valueMissing name => "Option '" ++ name ++ "' requires an argument."
  | valueUnexpected name => "Option '" ++ name ++ "' does not take a value."
  | unknownCommand name => "No such command '" ++ name ++ "'."
  | operandUnexpected operand => "Got unexpected extra argument (" ++ operand ++ ")"
  | pathUnusable path => "Invalid path: " ++ path

section

variable {α : Type}

/-- The effects of letters that stand together, and whether the last one took the next argument. The
rest of the letters is the value of one that takes a value. -/
def readLetters (options : List (OptionSpec α)) (next : Option String) :
    List Char → Except UsageError ((α → α) × Bool)
  | [] => .ok (id, false)
  | c :: cs =>
    match options.find? fun o => o.letter = some c with
    | none => .error (.unknownOption (String.ofList ['-', c]))
    | some o =>
      match o.effect with
      | .flag set => do
        let (more, used) ← readLetters options next cs
        return (fun a => more (set a), used)
      | .valued set =>
        if !cs.isEmpty then .ok (set (String.ofList cs), false)
        else match next with
          | some value => .ok (set value, true)
          | none => .error (.valueMissing o.name)

/-- The effect of a long name and of the value that an equal sign gives it, and whether it took the
next argument. Nothing if no option has the name. -/
def readLong? (options : List (OptionSpec α)) (next : Option String) (arg : String) :
    Option (Except UsageError ((α → α) × Bool)) :=
  let cs := arg.toList
  let name := cs.takeWhile (· ≠ '=')
  let given := match cs.drop name.length with
    | _ :: value => some (String.ofList value)
    | [] => none
  (options.find? fun o => o.name.toList = name).map fun o =>
    match o.effect, given, next with
    | .flag set, none, _ => .ok (set, false)
    | .flag _, some _, _ => .error (.valueUnexpected o.name)
    | .valued set, some value, _ => .ok (set value, false)
    | .valued set, none, some value => .ok (set value, true)
    | .valued _, none, none => .error (.valueMissing o.name)

def readOption (options : List (OptionSpec α)) (next : Option String) (arg : String) :
    Except UsageError ((α → α) × Bool) :=
  match readLong? options next arg with
  | some result => result
  | none =>
    match arg.toList with
    | '-' :: '-' :: _ => .error (.unknownOption arg)
    | cs => readLetters options next cs.tail

def isOption (arg : String) : Bool :=
  match arg.toList with
  | '-' :: _ :: _ => true
  | _ => false

/-- The effect of all options of a command, and its operands. Options may follow operands only if
they are `mixed`. -/
def readArgs (options : List (OptionSpec α)) (mixed : Bool) :
    List String → Except UsageError ((α → α) × List String)
  | [] => .ok (id, [])
  | arg :: rest =>
    if arg = "--" then .ok (id, rest)
    else if isOption arg then do
      let (effect, used) ← readOption options rest.head? arg
      let (more, operands) ← readArgs options mixed (rest.drop used.toNat)
      return (fun a => more (effect a), operands)
    else if mixed then do
      let (more, operands) ← readArgs options mixed rest
      return (more, arg :: operands)
    else .ok (id, arg :: rest)
  termination_by args => args.length
  decreasing_by all_goals simp only [List.length_drop, List.length_cons]; omega

end

end Stepwise.Cli
