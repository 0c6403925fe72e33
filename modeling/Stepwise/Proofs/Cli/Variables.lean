import Stepwise.Cli
import Stepwise.Proofs.Run.Variables

/-! What is shown of a run is made of commands, names, counts and answers. None of these has
variables in it, so pipelines and surroundings that differ in variables only are run, logged,
summed up and reported alike, as long as the executor does not look at variables. -/
namespace Stepwise

theorem Pipeline.map_unset_getElem? {α : Type} (p : Pipeline) (index : Nat) {f : Step → α}
    (f_unset : ∀ s : Step, f s.unset = f s) :
    p.unset.steps[index]?.map f = p.steps[index]?.map f := by
  have steps : p.unset.steps = p.steps.map Step.unset := rfl
  rw [steps, List.getElem?_map, Option.map_map]
  congr 1
  exact funext f_unset

theorem Report.summary_unset (r : Report) (p : Pipeline) (timestamp : String) :
    r.summary p.unset timestamp = r.summary p timestamp := by
  have notRun : (p.unset.steps.drop r.stepResults.length).map Step.name =
      (p.steps.drop r.stepResults.length).map Step.name := by
    have steps : p.unset.steps = p.steps.map Step.unset := rfl
    rw [steps, ← List.map_drop, List.map_map]
    rfl
  simp only [summary, p.size_unset, notRun]

namespace Cli

variable {σ : Type}

theorem traceHooks_blind (width : Nat) : (traceHooks width : Hooks σ Fault).Blind := fun _ _ _ => rfl

theorem eventText_unset (width : Nat) (p : Pipeline) (e : Event) :
    eventText width p.unset e.unset = eventText width p e := by
  have command := fun index => p.map_unset_getElem? index (f := Step.command) fun _ => rfl
  have name := fun index => p.map_unset_getElem? index (f := Step.name) fun _ => rfl
  cases e with
  | log record => rfl
  | start index told => simp only [Event.unset, eventText, command]
  | exec program args context => rfl
  | finish index success => cases success <;> simp only [Event.unset, eventText, name]

theorem traceText_unset (width : Nat) (p : Pipeline) (trace : List Event) :
    traceText width p.unset (trace.map Event.unset) = traceText width p trace := by
  unfold traceText
  rw [List.map_map]
  congr 2
  exact funext (eventText_unset width p)

def logged (trace : List Event) : List LogRecord :=
  trace.filterMap fun e =>
    match e with
    | .log r => some r
    | _ => none

theorem logged_unset (trace : List Event) : logged (trace.map Event.unset) = logged trace := by
  induction trace with
  | nil => rfl
  | cons e rest ih =>
    cases e with
    | log record => exact congrArg (record :: ·) ih
    | start index name => exact ih
    | exec command args context => exact ih
    | finish index success => exact ih

/-- What a command does, but for the variables that it hands over. -/
def Outcome.unset (o : Outcome σ) : Outcome σ := { o with trace := o.trace.map Event.unset }

theorem afterRun_unset (host : Host σ) (around : Surroundings) (s : RunSettings) (p : Pipeline)
    (r : Report) (state : σ) : afterRun host around s p.unset r state =
      afterRun host around s p r state := by
  unfold afterRun
  rw [p.size_unset, r.summary_unset]

/-- Surroundings that differ in variables only, and in what they say of texts that are no YAML. -/
structure Surroundings.Near (around around' : Surroundings) : Prop where
  width : around.width = around'.width
  runId : around.runId = around'.runId
  timestamp : around.timestamp = around'.timestamp

theorem execute_unset_eq (host : Host σ) {around around' : Surroundings} (near : around.Near around')
    (s : RunSettings) {p q : Pipeline} (same : p.unset = q.unset) (records : List LogRecord)
    (state : σ) (blind : (host.executor s.capture).Blind) :
    (execute host around s p records state).unset =
      (execute host around' s q records state).unset := by
  have cwd : (⟨here (host.world state), around.environ⟩ : Context).cwd =
      (⟨here (host.world state), around'.environ⟩ : Context).cwd := rfl
  have run := run_unset_eq blind (traceHooks_blind around.width) same cwd around.runId state
  unfold execute
  rw [← near.runId, ← near.width]
  simp only
  generalize p.run (host.executor s.capture) (traceHooks around.width)
    ⟨here (host.world state), around.environ⟩ around.runId state = one at run ⊢
  generalize q.run (host.executor s.capture) (traceHooks around.width)
    ⟨here (host.world state), around'.environ⟩ around.runId state = other at run ⊢
  obtain ⟨traces, outcomes, states⟩ := Run.unset_eq_unset.mp run
  have text : traceText around.width p one.trace = traceText around.width q other.trace := by
    rw [← traceText_unset _ p, traces, same, traceText_unset _ q]
  have log : logged one.trace = logged other.trace := by
    rw [← logged_unset one.trace, traces, logged_unset]
  have told : ∀ r, afterRun host around s p r other.state =
      afterRun host around' s q r other.state := by
    intro r
    rw [← afterRun_unset host around s p, same, afterRun_unset]
    simp only [afterRun, near.timestamp, near.width]
  rw [outcomes, states]
  cases other.outcome with
  | error e =>
    simp only [Outcome.unset, text, traces]
    congr 1
    exact congrArg (records ++ ·) log
  | ok r =>
    simp only [Outcome.unset, text, traces, told]
    congr 1
    exact congrArg (records ++ ·) log

/-- Pipelines that differ in variables only, started in one directory with whatever variables, give
the same on an executor that does not look at variables: the same trace but for the variables that
are handed over, the same report or error and the same state. So their summary and their written
report are the same, and so is all that a command shows, logs and writes. -/
theorem visible_independent {ε : Type} (ex : Executor σ ε) (hooks : Hooks σ ε) (blind : ex.Blind)
    (seen : hooks.Blind) (p q : Pipeline) (same : p.unset = q.unset) (base base' : Context)
    (cwd : base.cwd = base'.cwd) (runId : String) (w : σ) :
    let run := p.run ex hooks base runId w
    let run' := q.run ex hooks base' runId w
    (run.trace.map Event.unset = run'.trace.map Event.unset ∧ run.outcome = run'.outcome ∧
      run.state = run'.state) ∧
    (∀ width r timestamp, reportLines width r p.size = reportLines width r q.size ∧
      (r.summary p timestamp).render .default = (r.summary q timestamp).render .default) ∧
    ∀ {τ : Type} (host : Host τ) (around around' : Surroundings) (s : RunSettings)
      (records : List LogRecord) (state : τ), (host.executor s.capture).Blind →
      around.Near around' → (execute host around s p records state).unset =
        (execute host around' s q records state).unset := by
  refine ⟨Run.unset_eq_unset.mp (run_unset_eq blind seen same cwd runId w), ?_, ?_⟩
  · intro width r timestamp
    have size : p.size = q.size := by rw [← p.size_unset, same, q.size_unset]
    have summary : r.summary p timestamp = r.summary q timestamp := by
      rw [← r.summary_unset p, same, r.summary_unset]
    rw [size, summary]
    exact ⟨rfl, rfl⟩
  · intro τ host around around' s records state looks near
    exact execute_unset_eq host near s same records state looks

open Course (listed build source calls)

def watching {ε : Type} : Hooks σ ε :=
  ⟨some fun _ _ w => (none, w), some fun _ _ w => (none, w)⟩

/-- The second step of a build in other surroundings. It is handed other variables. -/
theorem visible_independent_build :
    let replies : List (Reply Unit) := [.completed ⟨0, none, none, 5⟩, .unstartable none [] "gone"]
    let run := build.run listed watching source "run" replies
    let run' := build.unset.run listed watching source.unset "run" replies
    (calls run.trace).map (fun call => call.2.2.env.pairs.length) = [3, 4] ∧
    (calls run'.trace).map (fun call => call.2.2.env.pairs.length) = [0, 0] ∧
    run.trace.map Event.unset = run'.trace.map Event.unset ∧ run.outcome = run'.outcome ∧
    ∃ r, run.outcome = .ok r ∧ r.failedIndex = some 1 := by
  intro replies run run'
  have blind : (listed : Executor (List (Reply Unit)) Unit).Blind :=
    ⟨fun _ _ _ _ => rfl, fun _ _ _ => rfl⟩
  have seen : (watching : Hooks (List (Reply Unit)) Unit).Blind := fun _ _ _ => rfl
  obtain ⟨⟨trace, outcome, -⟩, -, -⟩ := visible_independent listed watching blind seen build
    build.unset rfl source source.unset rfl "run" replies
  exact ⟨rfl, rfl, trace, outcome, _, rfl, rfl⟩

end Cli

end Stepwise
