import Stepwise.Proofs.Definition.Reading
import Stepwise.Proofs.Env.Layering

/-! Building from what is known to be in order. A list of texts goes through the checks of a step as
it is, a list of steps through those of a pipeline, and the command that a definition chooses for a
mode is one that can be run. So a definition that was read always makes a pipeline, and its parts
tell which one. -/
namespace Stepwise

theorem Value.texts_map_text (index : Nat) (args : List String) :
    Value.texts index (args.map .text) = .ok args := by
  induction args generalizing index with
  | nil => rfl
  | cons arg rest ih => simp [Value.texts, ih, Functor.map, Except.map]

theorem Value.steps_map_step (index : Nat) (steps : List Step) :
    Value.steps index (steps.map .step) = .ok steps := by
  induction steps generalizing index with
  | nil => rfl
  | cons s rest ih => simp [Value.steps, ih, Functor.map, Except.map]

theorem Value.command_tuple (args : List String) :
    (Value.tuple (args.map .text)).command = .ok args := by
  cases args with
  | nil => rfl
  | cons arg rest => exact Value.texts_map_text 0 (arg :: rest)

theorem Value.command_list (args : List String) :
    (Value.list (args.map .text)).command = .ok args := by
  cases args with
  | nil => rfl
  | cons arg rest => exact Value.texts_map_text 0 (arg :: rest)

theorem Step.ofCommand_of_runnable {command : List String} (h : Runnable command)
    (description : String) (env : Env) (cwd : Option Directory) :
    Step.ofCommand command description env cwd = .ok ⟨command, description, env, cwd, h⟩ :=
  dif_pos h

theorem Step.ofCommand_eq_ok {command : List String} {description : String} {env : Env}
    {cwd : Option Directory} {s : Step} (h : Step.ofCommand command description env cwd = .ok s) :
    Runnable command ∧ s.command = command := by
  unfold Step.ofCommand at h
  split at h
  · rename_i runnable
    cases h
    exact ⟨runnable, rfl⟩
  · cases h

theorem Pipeline.ofValues_map_step {steps : List Step} (h : steps ≠ []) (name : String)
    (env : Env) : Pipeline.ofValues (steps.map .step) name env = .ok ⟨name, steps, env, h⟩ := by
  unfold Pipeline.ofValues
  rw [Value.steps_map_step]
  exact dif_neg h

namespace StepDefinition

/-- A verifying command that is given has something in it, so it is never passed over. -/
theorem command_check (s : StepDefinition) : s.command .check = s.check.getD s.run := by
  cases h : s.check with
  | none => simp [command, h]
  | some c =>
    have filled : c.isEmpty = false := by simpa using (s.check_runnable c h).ne_nil
    simp only [command, h, filled, Bool.false_eq_true, if_false, Option.getD_some]

theorem command_runnable (s : StepDefinition) (mode : FormatMode) : Runnable (s.command mode) := by
  cases mode with
  | fix => exact s.run_runnable
  | check =>
    rw [s.command_check]
    cases h : s.check with
    | none => exact s.run_runnable
    | some c => exact s.check_runnable c h

def built (s : StepDefinition) (mode : FormatMode) : Step :=
  ⟨s.command mode, s.description, s.env, s.cwd.map .text, s.command_runnable mode⟩

theorem toStep_eq_built (s : StepDefinition) (mode : FormatMode) :
    s.toStep mode = .ok (s.built mode) := by
  unfold toStep Step.ofValue
  rw [Value.command_tuple]
  exact Step.ofCommand_of_runnable (s.command_runnable mode) _ _ _

theorem built_of_no_check {s : StepDefinition} (h : s.check = none) (mode : FormatMode) :
    (s.built mode).command = s.run := by
  cases mode with
  | fix => rfl
  | check => simp [built, s.command_check, h]

end StepDefinition

namespace Definition

def built (d : Definition) (mode : FormatMode) (env : Env) : Pipeline where
  name := d.metadata.name
  steps := d.spec.steps.map fun s => s.built mode
  env := d.spec.env.update env
  nonempty := by simpa using d.spec.nonempty

theorem mapM_toStep (steps : List StepDefinition) (mode : FormatMode) :
    steps.mapM (fun s => s.toStep mode) = .ok (steps.map fun s => s.built mode) := by
  induction steps with
  | nil => rfl
  | cons s rest ih =>
    rw [List.mapM_cons, s.toStep_eq_built, ih]
    rfl

theorem toPipeline_eq_built (d : Definition) (mode : Option FormatMode) (env : Env) :
    d.toPipeline mode env = .ok (d.built (mode.getD d.spec.formatMode) env) := by
  unfold toPipeline
  rw [mapM_toStep]
  exact Pipeline.ofValues_map_step (d.built _ env).nonempty _ _

/-- The step that a definition's step makes in a mode: its verifying command if that is asked for
and given, and otherwise the one it runs. -/
structure StepBuilt (mode : FormatMode) (s : StepDefinition) (t : Step) : Prop where
  command : t.command = if mode = .check then s.check.getD s.run else s.run
  startable : t.command ≠ [] ∧ Text.allBlank t.executable = false
  description : t.description = s.description
  env : t.env = s.env
  cwd : t.cwd = s.cwd.map .text

/-- The pipeline that a definition makes in a mode with some variables: its steps in their order,
and the variables that are given over its own. -/
structure Built (d : Definition) (mode : FormatMode) (env : Env) (p : Pipeline) : Prop where
  name : p.name = d.metadata.name
  steps : List.Forall₂ (StepBuilt mode) d.spec.steps p.steps
  value : ∀ name, p.env.get? name = (env.get? name).or (d.spec.env.get? name)
  order : p.env.names = d.spec.env.names ++ env.names.filter (· ∉ d.spec.env.names)

theorem stepBuilt (s : StepDefinition) (mode : FormatMode) : StepBuilt mode s (s.built mode) := by
  constructor
  case command =>
    cases mode with
    | fix => rfl
    | check => exact s.command_check
  case startable => exact ⟨(s.command_runnable mode).ne_nil, s.command_runnable mode⟩
  case description => rfl
  case env => rfl
  case cwd => rfl

theorem built_built (d : Definition) (mode : FormatMode) (env : Env) :
    Built d mode env (d.built mode env) where
  name := rfl
  steps := List.forall₂_map_right_iff.mpr (List.forall₂_same.mpr fun s _ => stepBuilt s mode)
  value := Env.get?_update d.spec.env env
  order := Env.names_update d.spec.env env

theorem built_of_no_checks {d : Definition} (h : ∀ s ∈ d.spec.steps, s.check = none)
    (mode mode' : FormatMode) (env : Env) : d.built mode env = d.built mode' env := by
  have steps : d.spec.steps.map (fun s => s.built mode) =
      d.spec.steps.map fun s => s.built mode' := by
    apply List.map_congr_left
    intro s member
    have command : s.command mode = s.command mode' :=
      (StepDefinition.built_of_no_check (h s member) mode).trans
        (StepDefinition.built_of_no_check (h s member) mode').symm
    simp only [StepDefinition.built, command]
  simp only [built, steps]

/-- A definition that was read from a document makes a pipeline of the steps that the document
lists, in every mode and with any variables over its own. Without verifying commands the modes make
no difference, and where formatting is to be put right no verifying command is run. -/
theorem accepted_builds (document : Value) (d : Definition) (accepted : read document = .ok d) :
    (∃ items, Lists document items ∧
      List.Forall₂ (fun item s => readStep item = .ok s) items d.spec.steps) ∧
    (∀ mode env, ∃ p, d.toPipeline mode env = .ok p ∧
      Built d (mode.getD d.spec.formatMode) env p) ∧
    ((∀ s ∈ d.spec.steps, s.check = none) → ∀ mode mode' env,
      d.toPipeline (some mode) env = d.toPipeline (some mode') env) ∧
    ∀ env, ∃ p, d.toPipeline (some .fix) env = .ok p ∧
      p.steps.map Step.command = d.spec.steps.map StepDefinition.run := by
  refine ⟨steps_of_read accepted, ?_, ?_, ?_⟩
  · intro mode env
    exact ⟨_, d.toPipeline_eq_built mode env, built_built d _ env⟩
  · intro plain mode mode' env
    rw [d.toPipeline_eq_built, d.toPipeline_eq_built]
    exact congrArg Except.ok (built_of_no_checks plain mode mode' env)
  · intro env
    refine ⟨_, d.toPipeline_eq_built (some .fix) env, ?_⟩
    simp [built, StepDefinition.built, StepDefinition.command]

def release : Value :=
  .map [(.text "apiVersion", .text "buildpipe/v1"), (.text "kind", .text "Pipeline"),
    (.text "metadata", .map [(.text "name", .text "release-2")]),
    (.text "spec", .map [
      (.text "steps", .list [
        .map [(.text "run", .list [.text "sleep", .int 5]), (.text "cwd", .text "tmp")],
        .map [(.text "run", .text "cargo fmt"), (.text "check", .text "cargo fmt '--check'")]]),
      (.text "format_mode", .text "check"),
      (.text "env", .map [(.text "CI", .int 1), (.text "JOBS", .int 4)])])]

theorem accepted_builds_release :
    ∃ d, read release = .ok d ∧
      (∃ p, d.toPipeline none (.ofPairs [("TAG", "v1"), ("CI", "0")]) = .ok p ∧
        p.steps.map Step.command = [["sleep", "5"], ["cargo", "fmt", "--check"]] ∧
        p.env.pairs = [("CI", "0"), ("JOBS", "4"), ("TAG", "v1")] ∧
        Built d .check (.ofPairs [("TAG", "v1"), ("CI", "0")]) p) ∧
      ∃ p, d.toPipeline (some .fix) ∅ = .ok p ∧
        p.steps.map Step.command = [["sleep", "5"], ["cargo", "fmt"]] := by
  obtain ⟨-, builds, -, fixes⟩ := accepted_builds release _ rfl
  obtain ⟨p, made, built⟩ := builds none (.ofPairs [("TAG", "v1"), ("CI", "0")])
  cases made
  exact ⟨_, rfl, ⟨_, rfl, rfl, rfl, built⟩, fixes ∅⟩

end Definition

end Stepwise
