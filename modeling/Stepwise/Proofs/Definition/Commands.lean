import Stepwise.Proofs.CommandLine.RoundTrip
import Stepwise.Proofs.Definition.Building

/-! The commands that definitions take are those that steps take. A definition tests its commands as
it is read and a step tests its own as it is built, each in its own order; what both come to is that
the line can be split and that its first argument is not blank. -/
namespace Stepwise

/-- A reading of a step and a step that is built at once: either both come to a result or neither
does, and what the one makes in a mode has the command of the other. -/
structure Definition.Agree (reading : Definition.Reading StepDefinition) (mode : FormatMode)
    (step : Except ConfigurationError Step) : Prop where
  accepted : (∃ d, reading = .ok d) ↔ ∃ s, step = .ok s
  command : ∀ d s, reading = .ok d → step = .ok s →
    ∃ t, d.toStep mode = .ok t ∧ t.command = s.command

/-- A value takes the same commands where it is read as a command as a step takes that is built at
once. -/
def Definition.Takes (v : Value) (step : Except ConfigurationError Step) : Prop :=
  ∀ command, (∃ c, Definition.readCommand v = .ok c ∧ c.val = command) ↔
    ∃ s, step = .ok s ∧ s.command = command

namespace Step

variable {description : String} {env : Env} {cwd : Option Directory} {command : List String}

theorem ofCommand_takes {args : List String} :
    (∃ s, ofCommand args description env cwd = .ok s ∧ s.command = command) ↔
      args = command ∧ Runnable command := by
  constructor
  · rintro ⟨s, made, rfl⟩
    obtain ⟨runnable, same⟩ := ofCommand_eq_ok made
    exact ⟨same.symm, same ▸ runnable⟩
  · rintro ⟨rfl, runnable⟩
    exact ⟨_, ofCommand_of_runnable runnable description env cwd, rfl⟩

theorem ofLine_takes {line : String} :
    (∃ s, ofLine line description env cwd = .ok s ∧ s.command = command) ↔
      CommandLine.split line = .ok command ∧ Runnable command := by
  unfold ofLine
  cases CommandLine.split line with
  | error e => simp
  | ok args => simp [ofCommand_takes]

theorem ofValue_list_takes {args : List String} :
    (∃ s, ofValue (.list (args.map .text)) description env cwd = .ok s ∧ s.command = command) ↔
      args = command ∧ Runnable command := by
  unfold ofValue
  rw [Value.command_list]
  exact ofCommand_takes

end Step

namespace Definition

open Reading

theorem toCommand_eq_ok {args : List String} {c : Command} :
    toCommand args = .ok c ↔ args = c.val := by
  unfold toCommand
  constructor
  · intro h
    split at h
    · cases h
      rfl
    · cases h
  · rintro rfl
    exact dif_pos c.property

theorem readCommand_line {line : String} {c : Command} :
    readCommand (.text line) = .ok c ↔ CommandLine.split line = .ok c.val := by
  simp only [readCommand]
  cases CommandLine.split line with
  | error e => simp [complain]
  | ok args => simp [toCommand_eq_ok]

theorem readTexts {args texts : List String} :
    List.Forall₂ (fun v s => readText .asTexts v = .ok s) (args.map .text) texts ↔
      args = texts := by
  rw [List.forall₂_map_left_iff, ← List.forall₂_eq_eq_eq]
  simp only [readText, Except.ok.injEq]

theorem readCommand_texts {args : List String} {c : Command} :
    readCommand (.list (args.map .text)) = .ok c ↔ args = c.val := by
  show (readList (readText .asTexts) (.list (args.map .text)) >>= toCommand) = .ok c ↔ _
  simp only [bind_eq_ok, readList_eq_ok, listItems?, Option.some.injEq, exists_eq_left',
    readTexts, toCommand_eq_ok]

theorem exists_command {P : List String → Prop} {command : List String} :
    (∃ c : Command, P c.val ∧ c.val = command) ↔ P command ∧ Runnable command := by
  constructor
  · rintro ⟨c, holds, rfl⟩
    exact ⟨holds, c.property⟩
  · rintro ⟨holds, runnable⟩
    exact ⟨⟨command, runnable⟩, holds, rfl⟩

theorem takes_line (line description : String) (env : Env) (cwd : Option Directory) :
    Takes (.text line) (Step.ofLine line description env cwd) := by
  intro command
  simp only [readCommand_line]
  exact (exists_command (P := fun args => CommandLine.split line = .ok args)).trans
    Step.ofLine_takes.symm

theorem takes_texts (args : List String) (description : String) (env : Env)
    (cwd : Option Directory) :
    Takes (.list (args.map .text)) (Step.ofValue (.list (args.map .text)) description env cwd) := by
  intro command
  simp only [readCommand_texts]
  exact exists_command.trans Step.ofValue_list_takes.symm

theorem agree_of_commands {reading : Reading StepDefinition} {mode : FormatMode}
    {step : Except ConfigurationError Step}
    (same : ∀ command, (∃ d, reading = .ok d ∧ d.command mode = command) ↔
      ∃ s, step = .ok s ∧ s.command = command) : Agree reading mode step where
  accepted := by
    constructor
    · rintro ⟨d, accepted⟩
      obtain ⟨s, made, -⟩ := (same _).mp ⟨d, accepted, rfl⟩
      exact ⟨s, made⟩
    · rintro ⟨s, made⟩
      obtain ⟨d, accepted, -⟩ := (same _).mpr ⟨s, made, rfl⟩
      exact ⟨d, accepted⟩
  command := by
    intro d s accepted made
    obtain ⟨s', made', command⟩ := (same _).mp ⟨d, accepted, rfl⟩
    cases made.symm.trans made'
    exact ⟨d.built mode, d.toStep_eq_built mode, command.symm⟩

theorem runnable_val (c : Command) : Runnable c.val := c.property

theorem runnable_of_given (check : Option Command) (command : List String)
    (h : check.map Subtype.val = some command) : Runnable command := by
  obtain ⟨c, -, rfl⟩ := Option.map_eq_some_iff.mp h
  exact runnable_val c

def ofCommands (run : Command) (check : Option Command) : StepDefinition where
  run := run.val
  check := check.map Subtype.val
  description := ""
  env := ∅
  cwd := none
  run_runnable := runnable_val run
  check_runnable := runnable_of_given check

/-- Where the fields of a step are its commands only, reading it is reading them. -/
theorem readStep_commands {entries : List (Value × Value)} {d : StepDefinition}
    (description : Value.field? entries "description" = none)
    (env : Value.field? entries "env" = none) (cwd : Value.field? entries "cwd" = none) :
    readStep (.map entries) = .ok d ↔
      ∃ run check, readField entries "run" (complain .missing) readCommand = .ok run ∧
        readField entries "check" (.ok none) (readOption readCommand) = .ok check ∧
        ofCommands run check = d := by
  show readStepFields entries = .ok d ↔ _
  unfold readStepFields
  rw [map_eq_ok, readField_absent description, readField_absent env, readField_absent cwd]
  simp only [Prod.exists, both_eq_ok, inside, Except.ok.injEq]
  constructor
  · rintro ⟨run, check, _, _, _, ⟨runs, checks, rfl, rfl, rfl⟩, rfl⟩
    exact ⟨run, check, runs, checks, rfl⟩
  · rintro ⟨run, check, runs, checks, rfl⟩
    exact ⟨run, check, _, _, _, ⟨runs, checks, rfl, rfl, rfl⟩, rfl⟩

theorem readStep_run {v : Value} {d : StepDefinition} :
    readStep (.map [(.text "run", v)]) = .ok d ↔
      ∃ c, readCommand v = .ok c ∧ ofCommands c none = d := by
  rw [readStep_commands rfl rfl rfl, readField_given rfl, readField_absent rfl]
  simp only [inside_eq_ok, Except.ok.injEq, exists_and_left, exists_eq_left']

theorem readStep_check {run v : Value} {c : Command} (runs : readCommand run = .ok c)
    (given : v ≠ .null) {d : StepDefinition} :
    readStep (.map [(.text "run", run), (.text "check", v)]) = .ok d ↔
      ∃ check, readCommand v = .ok check ∧ ofCommands c (some check) = d := by
  have option : readOption readCommand v = some <$> readCommand v := by
    cases v <;> first | rfl | exact absurd rfl given
  rw [readStep_commands rfl rfl rfl, readField_given rfl, readField_given rfl, option]
  simp only [inside_eq_ok, runs, map_eq_ok, Except.ok.injEq]
  constructor
  · rintro ⟨_, _, rfl, ⟨check, checks, rfl⟩, rfl⟩
    exact ⟨check, checks, rfl⟩
  · rintro ⟨check, checks, rfl⟩
    exact ⟨_, _, rfl, ⟨check, checks, rfl⟩, rfl⟩

theorem agree_run {v : Value} {step : Except ConfigurationError Step} (same : Takes v step)
    (mode : FormatMode) : Agree (readStep (.map [(.text "run", v)])) mode step := by
  apply agree_of_commands
  intro command
  rw [← same command]
  have chosen : ∀ c : Command, (ofCommands c none).command mode = c.val := by
    intro c
    cases mode <;> rfl
  simp only [readStep_run]
  constructor
  · rintro ⟨d, ⟨c, taken, rfl⟩, rfl⟩
    exact ⟨c, taken, (chosen c).symm⟩
  · rintro ⟨c, taken, rfl⟩
    exact ⟨ofCommands c none, ⟨c, taken, rfl⟩, chosen c⟩

theorem agree_check {run v : Value} {c : Command} (runs : readCommand run = .ok c)
    (given : v ≠ .null) {step : Except ConfigurationError Step} (same : Takes v step) :
    Agree (readStep (.map [(.text "run", run), (.text "check", v)])) .check step := by
  apply agree_of_commands
  intro command
  rw [← same command]
  have chosen : ∀ check : Command, (ofCommands c (some check)).command .check = check.val :=
    fun check => (ofCommands c (some check)).command_check
  simp only [readStep_check runs given]
  constructor
  · rintro ⟨d, ⟨check, taken, rfl⟩, rfl⟩
    exact ⟨check, taken, (chosen check).symm⟩
  · rintro ⟨check, taken, rfl⟩
    exact ⟨ofCommands c (some check), ⟨check, taken, rfl⟩, chosen check⟩

/-- A line is taken by a definition exactly where it makes a step, and so is a list of texts, and
the command is the same. That holds of the command that is run, and also of a verifying command
beside any command that is taken. -/
theorem commands_agree (line : String) (args : List String) (description : String) (env : Env)
    (cwd : Option Directory) :
    (∀ mode, Agree (readStep (.map [(.text "run", .text line)])) mode
      (Step.ofLine line description env cwd)) ∧
    (∀ mode, Agree (readStep (.map [(.text "run", .list (args.map .text))])) mode
      (Step.ofValue (.list (args.map .text)) description env cwd)) ∧
    ∀ run c, readCommand run = .ok c →
      Agree (readStep (.map [(.text "run", run), (.text "check", .text line)])) .check
        (Step.ofLine line description env cwd) ∧
      Agree (readStep (.map [(.text "run", run), (.text "check", .list (args.map .text))])) .check
        (Step.ofValue (.list (args.map .text)) description env cwd) := by
  have lines := takes_line line description env cwd
  have lists := takes_texts args description env cwd
  refine ⟨agree_run lines, agree_run lists, ?_⟩
  intro run c runs
  exact ⟨agree_check runs (by rintro ⟨⟩) lines, agree_check runs (by rintro ⟨⟩) lists⟩

/-- A verifying command beside a command with a number in it. -/
theorem commands_agree_beside_number :
    ∃ d t, readStep (.map [(.text "run", .list [.text "sleep", .int 5]),
        (.text "check", .text "cargo fmt '--check' \"\"")]) = .ok d ∧
      d.run = ["sleep", "5"] ∧ d.toStep .check = .ok t ∧
      t.command = ["cargo", "fmt", "--check", ""] := by
  obtain ⟨-, -, checks⟩ :=
    commands_agree "cargo fmt '--check' \"\"" ["cargo", "fmt", "--check", ""] "" ∅ none
  obtain ⟨-, command⟩ := (checks (.list [.text "sleep", .int 5]) ⟨["sleep", "5"], rfl⟩ rfl).1
  obtain ⟨t, made, same⟩ := command _ _ rfl rfl
  exact ⟨_, t, rfl, rfl, made, same⟩

end Definition

end Stepwise
