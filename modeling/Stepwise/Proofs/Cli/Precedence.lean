import Stepwise.Proofs.Cli.Command
import Stepwise.Proofs.Run.Contexts

/-! What a command of a run is given. Four layers of variables come together on the way from the
process to the command, in the same order whatever the source of the pipeline, and the directory is
that of the process, or the step's own as seen from there. Nothing of this is done to the process
itself. -/
namespace Stepwise.Cli

open Course (calls)

variable {σ : Type} {host : Host σ} {around : Surroundings} {s : RunSettings} {state : σ}

/-- What a step is given over the variables of the process, those of the pipeline and those of the
file: each layer wins over the ones before it. -/
structure Given (process own extra : Env) (start : Path) (t : Step) (c : Context) : Prop where
  env : c.env = ((process.update own).update extra).update t.env
  value : ∀ name, c.env.get? name =
    (((t.env.get? name).or (extra.get? name)).or (own.get? name)).or (process.get? name)
  cwd : c.cwd = match t.cwd with
    | none => start
    | some dir => start / dir.toPath

theorem given_of_layered {process own extra : Env} {start : Path} {t : Step} {c : Context}
    (layered : Context.Layered ⟨start, process⟩ (own.update extra) t c) :
    Given process own extra start t c := by
  constructor
  case env =>
    rw [Env.update_update process]
    exact layered.env
  case value =>
    intro name
    rw [layered.value, Env.get?_update, ← Option.or_assoc]
  case cwd =>
    rw [layered.cwd]
    cases t.cwd with
    | none => rfl
    | some dir =>
      by_cases absolute : dir.toPath.isAbsolute
      · simp [absolute, Path.join_of_isAbsolute absolute]
      · simp [absolute]

/-- A command that creates an executor runs the pipeline of the source that is asked for, with the
variables of the file over the pipeline's own. -/
theorem runCommand_of_created (created : (runCommand host around s state).executor ≠ none) :
    ∃ own extra records, Source around.explain (host.world state) s own ∧
      extraEnv (host.world state) around.environ s = .ok (extra, records) ∧
      runCommand host around s state =
        execute host around s (own.withEnv (own.env.update extra)) records state := by
  have way := runCommand_way host around s state
  generalize runCommand host around s state = o at way created
  cases way with
  | modes both => exact absurd (Outcome.printing_silent ..).1 created
  | rejected one resolved => exact absurd (Outcome.printing_silent ..).1 created
  | broken one resolved => exact absurd (Outcome.printing_silent ..).1 created
  | listed one resolved dry => exact absurd (Outcome.printing_silent ..).1 created
  | run one resolved executes =>
    obtain ⟨-, own, extra, more, source, rfl⟩ := resolve_eq_found.mp resolved
    exact ⟨own, extra, _, source, more, rfl⟩

theorem env_of_toPipeline {d : Definition} {mode : Option FormatMode} {p : Pipeline}
    (made : d.toPipeline mode ∅ = .ok p) : p.env = d.spec.env := by
  rw [d.toPipeline_eq_built] at made
  cases made
  exact Env.update_of_isEmpty rfl

/-- What the variables of the process are to a host, whatever the commands leave of them. -/
theorem Reporting.view_eq {α : Type} {view : σ → α} {after : σ}
    (kept : ∀ w state, view (host.setWorld w state) = view state)
    {width : Nat}
    (h : Reporting host width s state after) : view after = view state := by
  cases h with
  | nothing => rfl
  | report asked summary => exact kept _ _

/-- Whatever a run is made from, its commands are given the variables of the process, those of the
pipeline, those of the file and those of the step, of which the later win, and start in the directory
of the process unless their step has its own. What neither the commands nor files change is as
before, be it the variables of the process. A definition that is built with the variables of a file
and a pipeline over which they are laid are the same. -/
theorem run_precedence {args : List String} {verbose : Bool} (asks : Asks args verbose s)
    (created : (invoke host around args state).1.executor ≠ none) :
    (∃ (own : Pipeline) (extra : Env) (records : List LogRecord),
      Source around.explain (host.world state) s own ∧
      extraEnv (host.world state) around.environ s = .ok (extra, records) ∧
      (s.envFile = none → extra = ∅) ∧
      ∀ (i : Nat) command args' c,
        (calls (invoke host around args state).1.trace)[i]? = some (command, args', c) →
        ∃ t : Step, own.steps[i]? = some t ∧ command = t.executable ∧ args' = t.args ∧
          Given around.environ own.env extra (here (host.world state)) t c) ∧
    (∀ {α : Type} (view : σ → α),
      (∀ command args' c w, view ((host.executor s.capture).execute command args' c w).2 = view w) →
      (∀ w state, view (host.setWorld w state) = view state) →
      view (invoke host around args state).1.state = view state) ∧
    ∀ (d : Definition) mode own, d.toPipeline mode ∅ = .ok own → own.env = d.spec.env ∧
      ∀ extra, Resolution.ofConfiguration (d.toPipeline mode extra) =
          (Resolution.found own).layer extra ∧
        (Resolution.found own).layer extra = .found (own.withEnv (own.env.update extra)) := by
  rw [asks.invoke_eq] at created ⊢
  obtain ⟨own, extra, records, source, more, runs⟩ := runCommand_of_created created
  simp only [runs]
  refine ⟨⟨own, extra, records, source, more, ?_, ?_⟩, ?_, ?_⟩
  · intro no_file
    rw [extraEnv, no_file] at more
    exact (congrArg Prod.fst (Except.ok.inj more)).symm
  · intro i command args' c handed
    rw [execute_trace] at handed
    obtain ⟨t, inside, command_eq, args_eq, layered⟩ :=
      Course.run_contexts _ _ _ _ _ _ i command args' c handed
    exact ⟨t, inside, command_eq, args_eq, given_of_layered layered⟩
  · intro α view commands files
    have reporting := execute_reporting host around s (own.withEnv (own.env.update extra)) state
      records
    rw [reporting.view_eq files]
    exact Course.view_stateAfter _ commands _ _
  · intro d mode own made
    refine ⟨env_of_toPipeline made, fun extra => ⟨?_, Resolution.layer_found own extra⟩⟩
    rw [ofConfiguration_toPipeline, made]
    rfl

section Layers

def layers : World :=
  let text := "apiVersion: buildpipe/v1\nkind: Pipeline\nmetadata: \x7bname: ab\x7d\nspec: \x7b" ++
    "env: \x7bA: own, B: own, C: own\x7d, steps: [\x7brun: x, env: \x7bA: step\x7d, cwd: d\x7d]\x7d"
  ⟨[(["work"], .directory), (["work", "ci"], .directory),
    (["work", "ci", "s.yaml"], .file (Text.Utf8.encode text.toList) false),
    (["work", "e"], .file (Text.Utf8.encode "B=file\nA=file\n".toList) false)], ["work"]⟩

def populated : Host (World × Env) where
  executor _ := ⟨fun _ _ _ w => (.completed ⟨0, none, none, 0⟩, w), fun _ _ _ => [],
    fun _ _ => .ok 0⟩
  world := Prod.fst
  setWorld w state := (w, state.2)

def process : Env := .ofPairs [("D", "process"), ("C", "process"), ("B", "process"), ("A", "process")]

def bound : Surroundings := { Surroundings.bare with environ := process }

def layeredSettings : RunSettings :=
  { RunSettings.default with file := some "ci/s.yaml", envFile := some "e", report := some "r.md" }

def layeredPipeline : Pipeline where
  name := "ab"
  steps := [⟨["x"], "", .ofPairs [("A", "step")], some (.text "d"), rfl⟩]
  env := .ofPairs [("A", "file"), ("B", "file"), ("C", "own")]
  nonempty := List.cons_ne_nil _ _

theorem asks_layered :
    Asks ["run", "--env-file", "e", "--report", "r.md", "-f", "ci/s.yaml"] false layeredSettings := by
  have file : Reads RunSettings.options true ["-f", "ci/s.yaml"]
      (fun s => { s with file := some "ci/s.yaml" }) [] := .value (by decide) (by decide) rfl
  have report : Reads RunSettings.options true ["--report", "r.md", "-f", "ci/s.yaml"] _ [] :=
    .option (by decide) (by decide) rfl file
  have env_file : Reads RunSettings.options true
      ["--env-file", "e", "--report", "r.md", "-f", "ci/s.yaml"] _ [] :=
    .option (by decide) (by decide) rfl report
  exact .intro (.command _ (by decide) (by decide) rfl) rfl env_file rfl (by decide)

theorem found_of_test {r : Resolution} {p : Pipeline}
    (test : (match r with
      | .found q => decide (q.name = p.name ∧ q.steps = p.steps ∧ q.env = p.env)
      | _ => false) = true) : r = .found p := by
  cases r with
  | found q =>
    obtain ⟨name, steps, env, nonempty⟩ := q
    obtain ⟨rfl, rfl, rfl⟩ := of_decide_eq_true test
    rfl
  | rejected message => cases test
  | fault f => cases test

theorem resolve_layers : (resolve layers bound layeredSettings).1 = .found layeredPipeline :=
  found_of_test (by decide +kernel)

/-- What the only step there is given: a variable of each layer, and a directory below that of the
process. -/
def layeredContext : Context where
  cwd := ⟨.slash, ["work", "d"]⟩
  env := .ofPairs [("D", "process"), ("C", "own"), ("B", "file"), ("A", "step")]

theorem run_precedence_layers :
    let o := (invoke populated bound
      ["run", "--env-file", "e", "--report", "r.md", "-f", "ci/s.yaml"] (layers, process)).1
    o.executor ≠ none ∧ o.state.2 = process ∧ calls o.trace = [("x", [], layeredContext)] ∧
    ∃ own extra t, Source bound.explain layers layeredSettings own ∧ own.steps[0]? = some t ∧
      Given process own.env extra (here layers) t layeredContext := by
  intro o
  have asked : o = runCommand populated bound layeredSettings (layers, process) :=
    congrArg Prod.fst (asks_layered.invoke_eq _ _ _)
  have runs : o = execute populated bound layeredSettings layeredPipeline
      (resolve layers bound layeredSettings).2 (layers, process) :=
    asked.trans (runCommand_eq_execute rfl resolve_layers rfl)
  have created : o.executor ≠ none := by
    rw [runs, execute_executor]
    exact Option.some_ne_none _
  have handed : calls o.trace = [("x", [], layeredContext)] := by
    rw [runs, execute_trace]
    decide +kernel
  obtain ⟨⟨own, extra, -, source, -, -, each⟩, kept, -⟩ := run_precedence asks_layered created
  obtain ⟨t, inside, -, -, given⟩ := each 0 _ _ _ (congrArg (fun all => all[0]?) handed)
  exact ⟨created, kept Prod.snd (fun _ _ _ _ => rfl) fun _ _ => rfl, handed, own, extra, t, source,
    inside, given⟩

end Layers

end Stepwise.Cli
