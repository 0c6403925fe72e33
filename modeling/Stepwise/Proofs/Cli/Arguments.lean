import Stepwise.Cli

/-! Arguments, read one by one. Those that ask for a run name the command and read as its settings. -/
namespace Stepwise.Cli

section Reading

variable {α : Type} {opts : List (OptionSpec α)}

/-- Arguments read as an effect and operands: what `readArgs` does, argument by argument. -/
inductive Reads (opts : List (OptionSpec α)) (mixed : Bool) :
    List String → (α → α) → List String → Prop where
  | none : Reads opts mixed [] id []
  | stop (rest : List String) : Reads opts mixed ("--" :: rest) id rest
  | option {arg : String} {rest operands : List String} {set effect : α → α} {used : Bool}
      (plain : arg ≠ "--") (option : isOption arg)
      (read : readOption opts rest.head? arg = .ok (set, used))
      (later : Reads opts mixed (rest.drop used.toNat) effect operands) :
      Reads opts mixed (arg :: rest) (fun a => effect (set a)) operands
  | operand {arg : String} {rest operands : List String} {effect : α → α}
      (plain : arg ≠ "--") (operand : isOption arg = false) (anywhere : mixed = true)
      (later : Reads opts mixed rest effect operands) :
      Reads opts mixed (arg :: rest) effect (arg :: operands)
  | command {arg : String} (rest : List String)
      (plain : arg ≠ "--") (operand : isOption arg = false) (first : mixed = false) :
      Reads opts mixed (arg :: rest) id (arg :: rest)

variable {mixed : Bool} {args operands : List String} {effect : α → α}

theorem Reads.readArgs_eq (h : Reads opts mixed args effect operands) :
    readArgs opts mixed args = .ok (effect, operands) := by
  induction h with
  | none => rw [readArgs]
  | stop rest => rw [readArgs, if_pos rfl]
  | option plain option read later ih =>
    rw [readArgs, if_neg plain, if_pos option, read]
    simp only [bind, Except.bind, ih]
    rfl
  | operand plain operand anywhere later ih =>
    rw [readArgs, if_neg plain, if_neg (by simp [operand]), if_pos anywhere, ih]
    rfl
  | command rest plain operand first =>
    rw [readArgs, if_neg plain, if_neg (by simp [operand]), if_neg (by simp [first])]

theorem Reads.value {arg value : String} {set : α → α} (plain : arg ≠ "--") (option : isOption arg)
    (read : readOption opts (some value) arg = .ok (set, true)) :
    Reads opts mixed [arg, value] set [] := by
  have reads : Reads opts mixed [arg, value] (fun a => id (set a)) [] :=
    .option plain option read .none
  exact reads

end Reading

section Runs

/-- The settings that decide what is run. Whether output is captured and where a report is written
is not among them. -/
def RunSettings.core (s : RunSettings) : RunSettings := { s with capture := false, report := none }

/-- Arguments ask for a run with some settings: they name the command, what stands before it asks
for nothing else, and what follows reads as the settings. -/
inductive Asks : List String → Bool → RunSettings → Prop where
  | intro {args rest : List String} {verbose : Bool} {effect : Settings → Settings}
      {change : RunSettings → RunSettings}
      (named : Reads options false args effect ("run" :: rest))
      (goes_on : effect ⟨false, false, false⟩ = ⟨false, verbose, false⟩)
      (read : Reads RunSettings.options true rest change [])
      (no_help : (change .default).help = false)
      (usable : ∀ path ∈ (change .default).paths, nameFault? path = none) :
      Asks args verbose (change .default)

variable {args : List String} {verbose : Bool} {s : RunSettings}

theorem Asks.invoke_eq {σ : Type} (asks : Asks args verbose s) (host : Host σ)
    (around : Surroundings) (state : σ) :
    invoke host around args state =
      (runCommand host around s state, LogSetup.initial.setup verbose) := by
  obtain ⟨named, goes_on, read, no_help, usable⟩ := asks
  rename_i rest effect change
  have free : (change .default).paths.find? (fun path => (nameFault? path).isSome) = none := by
    rw [List.find?_eq_none]
    intro path member
    simp [usable path member]
  have settings : command host around "run" rest state =
      runCommand host around (change .default) state := by
    simp only [command, withSettings, read.readArgs_eq]
    simp [no_help, withPaths, free]
  simp only [invoke, named.readArgs_eq, goes_on, settings]
  rfl

/-- No variables, a narrow console, and nothing to say of files and reports. -/
def Surroundings.bare : Surroundings where
  environ := ∅
  width := 80
  explain _ := .blank
  runId := ""
  timestamp := ""
  some_width := by decide

end Runs

end Stepwise.Cli
