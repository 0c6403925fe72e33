import Stepwise.Proofs.Run.Contexts

/-! Variables have no part in the course of a run. They stand in the contexts that are handed over
and nowhere else, so taking them away before a run and after it comes to the same, as long as
neither the executor nor the first hook looks at them. -/
namespace Stepwise

/-- A step without variables. In the same way contexts, pipelines and events are unset. -/
def Step.unset (s : Step) : Step := { s with env := ∅ }

def Context.unset (c : Context) : Context := { c with env := ∅ }

def Pipeline.unset (p : Pipeline) : Pipeline where
  name := p.name
  steps := p.steps.map Step.unset
  env := ∅
  nonempty := by simpa using p.nonempty

def Event.unset : Event → Event
  | .exec command args context => .exec command args context.unset
  | e => e

theorem Context.unset_override (c : Context) (env : Env) (cwd : Option Directory) :
    (c.override env cwd).unset = c.unset.override ∅ cwd := by
  cases cwd <;> rfl

theorem Context.unset_forStep (c : Context) (s : Step) :
    (c.forStep s).unset = c.unset.forStep s.unset := by
  rw [forStep_eq_override, forStep_eq_override, unset_override]
  rfl

theorem Pipeline.unset_baseContext (p : Pipeline) (base : Context) :
    (p.baseContext base).unset = p.unset.baseContext base.unset := by
  rw [baseContext_eq_override, Context.unset_override]
  rfl

theorem Pipeline.size_unset (p : Pipeline) : p.unset.size = p.size :=
  List.length_map _

section Traces

variable {σ ε : Type}

def Turn.unset (t : Turn σ ε) : Turn σ ε := { t with trace := t.trace.map Event.unset }

def Run.unset (run : Run σ ε) : Run σ ε := { run with trace := run.trace.map Event.unset }

theorem Turn.unset_after (events : List Event) (t : Turn σ ε) :
    (t.after events).unset = t.unset.after (events.map Event.unset) := by
  simp [unset, after]

theorem Run.unset_after (events : List Event) (run : Run σ ε) :
    (run.after events).unset = run.unset.after (events.map Event.unset) := by
  simp [unset, after]

theorem Run.unset_timed (run : Run σ ε) (elapsed : Except ε Int) :
    (run.timed elapsed).unset = run.unset.timed elapsed := rfl

theorem Run.unset_eq_unset {run run' : Run σ ε} : run.unset = run'.unset ↔
    run.trace.map Event.unset = run'.trace.map Event.unset ∧ run.outcome = run'.outcome ∧
      run.state = run'.state := by
  simp [unset]

theorem map_unset_logs (records : List LogRecord) :
    (records.map Event.log).map Event.unset = records.map Event.log := by
  simp [Event.unset]

theorem map_unset_startEvents (hooks : Hooks σ ε) (index : Nat) (s : Step) :
    (hooks.startEvents index s).map Event.unset = hooks.startEvents index s.unset := by
  have name : s.unset.name = s.name := rfl
  unfold Hooks.startEvents
  split <;> simp [Event.unset, name]

theorem map_unset_finishEvents (hooks : Hooks σ ε) (index : Nat) (success : Bool) :
    (hooks.finishEvents index success).map Event.unset = hooks.finishEvents index success := by
  unfold Hooks.finishEvents
  split <;> simp [Event.unset]

/-- An executor answers and logs the same whatever the variables are. -/
structure Executor.Blind (ex : Executor σ ε) : Prop where
  execute : ∀ command args c w,
    ex.execute command args c.unset w = ex.execute command args c w
  announce : ∀ command args c, ex.announce command args c.unset = ex.announce command args c

/-- The first hook does the same whatever the variables of a step are. The second one sees none. -/
def Hooks.Blind (hooks : Hooks σ ε) : Prop :=
  ∀ index s w, hooks.start index s.unset w = hooks.start index s w

variable {ex : Executor σ ε} {hooks : Hooks σ ε}

theorem Executor.Blind.callEvents (blind : ex.Blind) (s : Step) (context : Context) :
    (ex.callEvents s context).map Event.unset = ex.callEvents s.unset context.unset := by
  have records := blind.announce s.executable s.args context
  simp only [Executor.callEvents, List.map_cons, map_unset_logs]
  rw [← records]
  rfl

theorem closeTurn_unset (r : StepResult) (cause : Option Failure) (w : σ) :
    (closeTurn hooks r cause w).unset = closeTurn hooks r cause w := by
  unfold closeTurn
  rw [Turn.unset_after, map_unset_finishEvents]
  congr 1
  rcases hooks.finish r w with ⟨_ | e, w'⟩
  · cases cause <;> rfl
  · rfl

/-- The turn of a step, without variables, is the turn of the step without variables. -/
theorem runStep_unset (blind : ex.Blind) (seen : hooks.Blind) (context : Context)
    (total index : Nat) (s : Step) (w : σ) :
    (runStep ex hooks context total index s w).unset =
      runStep ex hooks context.unset total index s.unset w := by
  have record : Event.unset (.log (stepRecord index total s)) =
      .log (stepRecord index total s.unset) := rfl
  rcases started : hooks.start index s w with ⟨stopped, before⟩
  have started' : hooks.start index s.unset w = (stopped, before) := (seen index s w).trans started
  simp only [runStep, started, started']
  rw [Turn.unset_after, List.map_cons, record, map_unset_startEvents]
  congr 1
  cases stopped with
  | some e => rfl
  | none =>
    rcases replied : ex.execute s.executable s.args (context.forStep s) before with ⟨reply, after⟩
    have inner := context.unset_forStep s
    have replied' : ex.execute s.unset.executable s.unset.args (context.unset.forStep s.unset)
        before = (reply, after) := by
      rw [← inner]
      exact (blind.execute s.executable s.args (context.forStep s) before).trans replied
    have command : s.unset.command = s.command := rfl
    simp only [replied, replied', command]
    rw [Turn.unset_after, blind.callEvents, inner]
    congr 1
    cases reply.outcome index s.command with
    | error e => rfl
    | ok outcome =>
      cases ex.elapsedMs before after with
      | error e => rfl
      | ok elapsed => exact closeTurn_unset _ _ _

theorem runSteps_unset (blind : ex.Blind) (seen : hooks.Blind) (context : Context)
    (total index : Nat) (steps : List Step) (report : Report) (w : σ) :
    (runSteps ex hooks context total index steps report w).unset =
      runSteps ex hooks context.unset total index (steps.map Step.unset) report w := by
  induction steps generalizing index report w with
  | nil => rfl
  | cons s rest ih =>
    have turn := runStep_unset blind seen context total index s w
    simp only [runSteps, List.map_cons]
    rw [Run.unset_after, ← turn]
    congr 1
    have ending : (runStep ex hooks context total index s w).unset.ending =
        (runStep ex hooks context total index s w).ending := rfl
    rw [ending]
    cases (runStep ex hooks context total index s w).ending with
    | stopped e => rfl
    | failed r cause => rfl
    | passed r => exact ih _ _ _

theorem run_unset (blind : ex.Blind) (seen : hooks.Blind) (p : Pipeline) (base : Context)
    (runId : String) (w : σ) :
    (p.run ex hooks base runId w).unset = p.unset.run ex hooks base.unset runId w := by
  have loop : (runSteps ex hooks (p.baseContext base) p.size 0 p.steps
        (Course.soFar p.name runId []) w).unset =
      runSteps ex hooks (p.unset.baseContext base.unset) p.unset.size 0 p.unset.steps
        (Course.soFar p.unset.name runId []) w := by
    rw [runSteps_unset blind seen, p.unset_baseContext, p.size_unset]
    rfl
  rw [Course.run_eq_timed, Course.run_eq_timed]
  simp only
  rw [Run.unset_timed, ← loop]
  rfl

/-- Pipelines and contexts that differ in variables only run alike on an executor that does not look
at them. -/
theorem run_unset_eq (blind : ex.Blind) (seen : hooks.Blind) {p q : Pipeline}
    (same : p.unset = q.unset) {base base' : Context} (cwd : base.cwd = base'.cwd) (runId : String)
    (w : σ) : (p.run ex hooks base runId w).unset = (q.run ex hooks base' runId w).unset := by
  have start : base.unset = base'.unset := by simp [Context.unset, cwd]
  rw [run_unset blind seen, run_unset blind seen, same, start]

end Traces

end Stepwise
