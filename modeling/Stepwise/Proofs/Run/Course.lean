import Stepwise.Run

/-! The course of a run, apart from the loop that runs it. A step passes, or something cuts the run
at it, and a run is a list of steps that pass and perhaps one that is cut. Every run takes one such
course; what the loop shows and reports is read off it. The executor, its clock and the hooks are
arbitrary. A clock that cannot tell the time of a step cuts a run like an executor that breaks
down. -/
namespace Stepwise.Course

section Calls

variable {σ ε α : Type}

/-- A hook is called with what it is told of the step at an index. It may stop the run, and it
leaves a state; where there is no hook, nothing of this happens. -/
inductive Called (hook : Option (Nat → α → σ → Option ε × σ)) (index : Nat) (told : α) (w : σ) :
    Option ε → σ → Prop where
  | absent (nothing : hook = none) : Called hook index told w none w
  | answered {f : Nat → α → σ → Option ε × σ} {stop : Option ε} {w' : σ} (there : hook = some f)
      (gives : f index told w = (stop, w')) : Called hook index told w stop w'

variable {hooks : Hooks σ ε}
variable {index : Nat} {told : α} {w w' : σ} {stop : Option ε}

theorem called_none : Called none index told w stop w' ↔ stop = none ∧ w' = w := by
  constructor
  · rintro (nothing | ⟨there, gives⟩)
    · exact ⟨rfl, rfl⟩
    · cases there
  · rintro ⟨rfl, rfl⟩
    exact .absent rfl

theorem called_some {f : Nat → α → σ → Option ε × σ} :
    Called (some f) index told w stop w' ↔ f index told w = (stop, w') := by
  constructor
  · rintro (nothing | ⟨there, gives⟩)
    · cases nothing
    · cases there
      exact gives
  · exact .answered rfl

theorem called_onStart {s : Step} :
    Called hooks.onStart index s w stop w' ↔ hooks.start index s w = (stop, w') := by
  unfold Hooks.start
  cases hooks.onStart with
  | none => simp [called_none, eq_comm]
  | some f => exact called_some

theorem called_onFinish {r : StepResult} :
    Called hooks.onFinish r.index r w stop w' ↔ hooks.finish r w = (stop, w') := by
  unfold Hooks.finish
  cases hooks.onFinish with
  | none => simp [called_none, eq_comm]
  | some f => exact called_some

end Calls

section Answers

variable {ε : Type}

/-- What an answer is for the step at an index that took some time: it ends well with code zero, and
fails with any other code or if it was not started. -/
inductive Yields (index : Nat) (s : Step) (elapsed : Int) :
    Reply ε → StepOutcome → StepResult → Prop where
  | passed {c : Completion} (zero : c.exitCode = 0) :
      Yields index s elapsed (.completed c) (.passed c)
      ⟨index, s.name, s.command, some c.exitCode, c.stdout, c.stderr,
        if c.durationMs = 0 then elapsed else c.durationMs, true, none⟩
  | exited {c : Completion} {cause : Failure} (nonzero : c.exitCode ≠ 0)
      (told : cause = .exited index s.command c.exitCode) :
      Yields index s elapsed (.completed c) (.failed cause (some c))
        ⟨index, s.name, s.command, some c.exitCode, c.stdout, c.stderr,
          if c.durationMs = 0 then elapsed else c.durationMs, false, some cause.message⟩
  | unstarted {own : Option Int} {command : List String} {reason : String} {cause : Failure}
      (told : cause = .unstartable (some (index : Int)) command reason) :
      Yields index s elapsed (.unstartable own command reason) (.failed cause none)
        ⟨index, s.name, s.command, none, none, none, elapsed, false, some cause.message⟩

variable {index : Nat} {s : Step} {elapsed : Int} {reply : Reply ε} {outcome : StepOutcome}
  {r : StepResult}

theorem yields_iff : Yields index s elapsed reply outcome r ↔
    reply.outcome index s.command = .ok outcome ∧ r = .of index s outcome elapsed := by
  constructor
  · rintro (zero | ⟨nonzero, rfl⟩ | ⟨rfl⟩)
    · simp [Reply.outcome, StepResult.of, StepOutcome.completion?, StepOutcome.cause?, zero]
    · simp [Reply.outcome, StepResult.of, StepOutcome.completion?, StepOutcome.cause?, nonzero]
    · exact ⟨rfl, rfl⟩
  · rintro ⟨meant, rfl⟩
    cases outcome with
    | passed c =>
      obtain ⟨rfl, zero⟩ := Reply.outcome_eq_passed meant
      exact .passed zero
    | failed cause c =>
      rcases Reply.outcome_eq_failed meant with
        ⟨d, rfl, nonzero, told, rfl⟩ | ⟨own, command, reason, rfl, told, rfl⟩
      · exact .exited nonzero told
      · exact .unstarted told

theorem outcome_of_answered (index : Nat) (command : List String) (h : ∀ f, reply ≠ .crashed f) :
    ∃ outcome, reply.outcome index command = .ok outcome := by
  cases reply with
  | completed c => exact ⟨_, rfl⟩
  | unstartable own given reason => exact ⟨_, rfl⟩
  | crashed e => exact absurd rfl (h e)

theorem Yields.index_success (h : Yields index s elapsed reply outcome r) :
    r.index = index ∧ r.success = outcome.cause?.isNone := by
  cases h <;> exact ⟨rfl, rfl⟩

end Answers

section Relations

variable {σ ε : Type} (ex : Executor σ ε) (hooks : Hooks σ ε) (context : Context)

/-- The step at an index is executed: the first hook lets it, the executor answers in the state that
leaves, and the clock tells how long that took. -/
inductive Executed (index : Nat) (s : Step) (w : σ) (reply : Reply ε) (outcome : StepOutcome)
    (r : StepResult) (after : σ) : Prop where
  | intro {before : σ} {elapsed : Int}
      (started : Called hooks.onStart index s w none before)
      (replied : ex.execute s.executable s.args (context.forStep s) before = (reply, after))
      (timed : ex.elapsedMs before after = .ok elapsed)
      (yields : Yields index s elapsed reply outcome r)

/-- The step at an index ends well and the second hook lets the run go on. -/
def Passes (index : Nat) (s : Step) (w : σ) (c : Completion) (r : StepResult) (w' : σ) : Prop :=
  ∃ after, Executed ex hooks context index s w (.completed c) (.passed c) r after ∧
    Called hooks.onFinish index r after none w'

/-- Steps from an index on that pass one after the other, with what their commands gave. -/
inductive Passed : Nat → List Step → σ → List Completion → List StepResult → σ → Prop where
  | nil (index : Nat) (w : σ) : Passed index [] w [] [] w
  | cons {index : Nat} {s : Step} {rest : List Step} {w w' w'' : σ} {c : Completion}
      {cs : List Completion} {r : StepResult} {rs : List StepResult}
      (first : Passes ex hooks context index s w c r w')
      (others : Passed (index + 1) rest w' cs rs w'') :
      Passed index (s :: rest) w (c :: cs) (r :: rs) w''

/-- What cuts a run at a step. -/
inductive Cut (ε : Type) where
  | start (error : ε)
  | execution (error : ε)
  | finish (success : Bool) (error : ε)
  | failure (r : StepResult) (cause : Failure)

/-- The run is cut at the step at an index, which leaves a state. -/
inductive CutBy (index : Nat) (s : Step) (w : σ) : Cut ε → σ → Prop where
  | start {e : ε} {w' : σ} (stopped : Called hooks.onStart index s w (some e) w') :
      CutBy index s w (.start e) w'
  | crash {e : ε} {before after : σ} (started : Called hooks.onStart index s w none before)
      (crashed : ex.execute s.executable s.args (context.forStep s) before = (.crashed e, after)) :
      CutBy index s w (.execution e) after
  | clock {e : ε} {before after : σ} {reply : Reply ε}
      (started : Called hooks.onStart index s w none before)
      (replied : ex.execute s.executable s.args (context.forStep s) before = (reply, after))
      (answered : ∀ f, reply ≠ .crashed f)
      (untimed : ex.elapsedMs before after = .error e) :
      CutBy index s w (.execution e) after
  | finish {e : ε} {after w' : σ} {reply : Reply ε} {outcome : StepOutcome} {r : StepResult}
      (executed : Executed ex hooks context index s w reply outcome r after)
      (stopped : Called hooks.onFinish index r after (some e) w') :
      CutBy index s w (.finish r.success e) w'
  | failure {after w' : σ} {reply : Reply ε} {cause : Failure} {c : Option Completion}
      {r : StepResult}
      (executed : Executed ex hooks context index s w reply (.failed cause c) r after)
      (finished : Called hooks.onFinish index r after none w') :
      CutBy index s w (.failure r cause) w'

end Relations

section Events

variable {σ ε : Type} (ex : Executor σ ε) (hooks : Hooks σ ε) (context : Context) (total : Nat)

/-- What is seen of the step at an index before it is executed: a record that names it, and the call
of the first hook, if there is one. -/
def opening (index : Nat) (s : Step) : List Event :=
  .log ⟨Log.runner, .debug,
      "Step " ++ toString (index + 1) ++ "/" ++ toString total ++ ": " ++ s.name⟩ ::
    if hooks.onStart.isSome then [.start index s.name] else []

/-- What is seen of a step that is handed over: its command, and what the executor logs of it. -/
def handover (s : Step) : List Event :=
  .exec s.executable s.args (context.forStep s) ::
    (ex.announce s.executable s.args (context.forStep s)).map .log

/-- What is seen of a step at an index up to the call of the second hook. -/
def cycle (index : Nat) (s : Step) (success : Bool) : List Event :=
  opening hooks total index s ++ handover ex context s ++
    if hooks.onFinish.isSome then [.finish index success] else []

def cycles (index : Nat) : List Step → List Event
  | [] => []
  | s :: rest => cycle ex hooks context total index s true ++ cycles (index + 1) rest

def Cut.events (index : Nat) (s : Step) : Cut ε → List Event
  | .start _ => opening hooks total index s
  | .execution _ => opening hooks total index s ++ handover ex context s
  | .finish success _ => cycle ex hooks context total index s success
  | .failure _ cause =>
    cycle ex hooks context total index s false ++ [.log ⟨Log.runner, .warning, cause.message⟩]

def Cut.error? : Cut ε → Option ε
  | .start e | .execution e | .finish _ e => some e
  | .failure _ _ => none

def Cut.ending : Cut ε → Ending ε
  | .start e | .execution e | .finish _ e => .stopped e
  | .failure r cause => .failed r cause

end Events

section Turns

variable {σ ε : Type} {ex : Executor σ ε} {hooks : Hooks σ ε} {context : Context}
variable {index : Nat} {s : Step} {w : σ}

theorem runStep_of_executed {reply : Reply ε} {outcome : StepOutcome} {r : StepResult} {after : σ}
    (total : Nat) (h : Executed ex hooks context index s w reply outcome r after) :
    runStep ex hooks context total index s w =
      .after (opening hooks total index s ++ handover ex context s)
        (closeTurn hooks r outcome.cause? after) := by
  obtain ⟨started, replied, timed, yields⟩ := h
  obtain ⟨meant, rfl⟩ := yields_iff.mp yields
  have started := called_onStart.mp started
  simp only [runStep, started, replied, meant, timed, Turn.after, ← List.append_assoc]
  rfl

theorem Executed.index_success {reply : Reply ε} {outcome : StepOutcome} {r : StepResult}
    {after : σ} (h : Executed ex hooks context index s w reply outcome r after) :
    r.index = index ∧ r.success = outcome.cause?.isNone := by
  obtain ⟨_, _, _, yields⟩ := h
  exact yields.index_success

theorem Executed.called_finish {reply : Reply ε} {outcome : StepOutcome} {r : StepResult}
    {after w' : σ} {stop : Option ε}
    (h : Executed ex hooks context index s w reply outcome r after) :
    Called hooks.onFinish index r after stop w' ↔ hooks.finish r after = (stop, w') := by
  obtain ⟨rfl, -⟩ := h.index_success
  exact called_onFinish

theorem runStep_of_passes {c : Completion} {r : StepResult} {w' : σ} (total : Nat)
    (h : Passes ex hooks context index s w c r w') :
    runStep ex hooks context total index s w =
      ⟨cycle ex hooks context total index s true, .passed r, w'⟩ := by
  obtain ⟨after, executed, finished⟩ := h
  obtain ⟨at_index, success⟩ := executed.index_success
  have finished := executed.called_finish.mp finished
  rw [runStep_of_executed total executed]
  simp [closeTurn, Turn.after, cycle, Hooks.finishEvents, finished, at_index, success,
    StepOutcome.cause?]

theorem runStep_of_cutBy {cut : Cut ε} {w' : σ} (total : Nat)
    (h : CutBy ex hooks context index s w cut w') :
    runStep ex hooks context total index s w =
      ⟨cut.events ex hooks context total index s, cut.ending, w'⟩ := by
  cases h with
  | start stopped =>
    simp [runStep, called_onStart.mp stopped, Turn.after, Cut.events, Cut.ending, opening,
      stepRecord, Hooks.startEvents]
  | crash started crashed =>
    simp [runStep, called_onStart.mp started, crashed, Reply.outcome, Turn.after, Cut.events,
      Cut.ending, opening, stepRecord, Hooks.startEvents, handover, Executor.callEvents]
  | clock started replied answered untimed =>
    rw [runStep, called_onStart.mp started]
    obtain ⟨outcome, meant⟩ := outcome_of_answered index s.command answered
    simp [replied, meant, untimed, Turn.after, Cut.events, Cut.ending, opening, stepRecord,
      Hooks.startEvents, handover, Executor.callEvents]
  | finish executed stopped =>
    have at_index := executed.index_success.1
    have stopped := executed.called_finish.mp stopped
    rw [runStep_of_executed total executed]
    simp [closeTurn, Turn.after, cycle, Hooks.finishEvents, Cut.events, Cut.ending, stopped,
      at_index]
  | failure executed finished =>
    obtain ⟨at_index, success⟩ := executed.index_success
    have finished := executed.called_finish.mp finished
    rw [runStep_of_executed total executed]
    simp [closeTurn, Turn.after, cycle, Hooks.finishEvents, Cut.events, Cut.ending, finished,
      at_index, success, StepOutcome.cause?, failureRecord]

theorem passes_or_cutBy (ex : Executor σ ε) (hooks : Hooks σ ε) (context : Context) (index : Nat)
    (s : Step) (w : σ) :
    (∃ c r w', Passes ex hooks context index s w c r w') ∨
      ∃ cut w', CutBy ex hooks context index s w cut w' := by
  rcases started : hooks.start index s w with ⟨_ | e, before⟩
  · have called := called_onStart.mpr started
    rcases replied : ex.execute s.executable s.args (context.forStep s) before with ⟨reply, after⟩
    cases meant : reply.outcome index s.command with
    | error e =>
      cases reply with
      | crashed e => exact .inr ⟨_, _, .crash called replied⟩
      | completed c => cases meant
      | unstartable own command reason => cases meant
    | ok outcome =>
      cases timed : ex.elapsedMs before after with
      | error e =>
        have answered : ∀ f, reply ≠ .crashed f := by
          rintro f rfl
          cases meant
        exact .inr ⟨_, _, .clock called replied answered timed⟩
      | ok elapsed =>
        have executed : Executed ex hooks context index s w reply outcome _ after :=
          ⟨called, replied, timed, yields_iff.mpr ⟨meant, rfl⟩⟩
        rcases finished : hooks.finish (.of index s outcome elapsed) after with ⟨_ | e, w'⟩
        · have finished := executed.called_finish.mpr finished
          cases outcome with
          | failed cause c => exact .inr ⟨_, _, .failure executed finished⟩
          | passed c =>
            obtain ⟨rfl, -⟩ := Reply.outcome_eq_passed meant
            exact .inl ⟨c, _, _, after, executed, finished⟩
        · exact .inr ⟨_, _, .finish executed (executed.called_finish.mpr finished)⟩
  · exact .inr ⟨_, _, .start (called_onStart.mpr started)⟩

end Turns

section Runs

variable {σ ε : Type} {ex : Executor σ ε} {hooks : Hooks σ ε} {context : Context}

theorem passed_or_cut (ex : Executor σ ε) (hooks : Hooks σ ε) (context : Context) (index : Nat)
    (steps : List Step) (w : σ) :
    (∃ cs rs w', Passed ex hooks context index steps w cs rs w') ∨
      ∃ done s rest cs rs w₁ cut w₂, steps = done ++ s :: rest ∧
        Passed ex hooks context index done w cs rs w₁ ∧
        CutBy ex hooks context (index + done.length) s w₁ cut w₂ := by
  induction steps generalizing index w with
  | nil => exact .inl ⟨[], [], w, .nil index w⟩
  | cons s rest ih =>
    rcases passes_or_cutBy ex hooks context index s w with ⟨c, r, w', first⟩ | ⟨cut, w', h⟩
    · rcases ih (index + 1) w' with ⟨cs, rs, w'', others⟩ | later
      · exact .inl ⟨c :: cs, r :: rs, w'', .cons first others⟩
      · obtain ⟨done, t, rest', cs, rs, w₁, cut, w₂, split, others, h⟩ := later
        refine .inr ⟨s :: done, t, rest', c :: cs, r :: rs, w₁, cut, w₂, ?_, .cons first others, ?_⟩
        · rw [split, List.cons_append]
        · rw [List.length_cons, Nat.add_comm done.length, ← Nat.add_assoc]
          exact h
    · exact .inr ⟨[], s, rest, [], [], w, cut, w', rfl, .nil index w, h⟩

theorem Passed.length_eq {index : Nat} {steps : List Step} {w w' : σ} {cs : List Completion}
    {rs : List StepResult} (h : Passed ex hooks context index steps w cs rs w') :
    cs.length = steps.length ∧ rs.length = steps.length := by
  induction h with
  | nil => exact ⟨rfl, rfl⟩
  | cons first others ih => simp [ih]

theorem Passed.of_append {index : Nat} {done rest : List Step} {w w' : σ} {cs : List Completion}
    {rs : List StepResult} (h : Passed ex hooks context index (done ++ rest) w cs rs w') :
    ∃ cs₁ rs₁ w₁, Passed ex hooks context index done w cs₁ rs₁ w₁ := by
  induction done generalizing index w cs rs with
  | nil => exact ⟨[], [], w, .nil index w⟩
  | cons s done ih =>
    cases h with
    | cons first others =>
      obtain ⟨cs₁, rs₁, w₁, h₁⟩ := ih others
      exact ⟨_, _, w₁, .cons first h₁⟩

theorem Passed.take {index : Nat} {steps : List Step} {w w' : σ} {cs : List Completion}
    {rs : List StepResult} (h : Passed ex hooks context index steps w cs rs w') (k : Nat) :
    ∃ cs₁ rs₁ w₁, Passed ex hooks context index (steps.take k) w cs₁ rs₁ w₁ := by
  rw [← List.take_append_drop k steps] at h
  exact h.of_append

/-- The report of a run whose steps so far have all passed. -/
def soFar (name runId : String) (rs : List StepResult) : Report where
  pipelineName := name
  runId := runId
  success := true
  stepsRun := rs.length
  stepResults := rs
  failure := none
  durationMs := 0
  state := ⟨rs.length - 1, .running, false, none⟩

def succeeded (name runId : String) (rs : List StepResult) : Report :=
  { soFar name runId rs with state := ⟨rs.length - 1, .succeeded, false, none⟩ }

def failed (name runId : String) (rs : List StepResult) (r : StepResult) (cause : Failure) :
    Report :=
  { soFar name runId rs with
    success := false
    stepResults := rs ++ [r]
    failure := some cause
    state := ⟨rs.length, .failed, true, some cause⟩ }

theorem soFar_succeeds (name runId : String) (rs : List StepResult) :
    (soFar name runId rs).transition .succeeded = .ok (succeeded name runId rs) := rfl

theorem soFar_fails (name runId : String) (rs : List StepResult) (r : StepResult)
    (cause : Failure) :
    (((soFar name runId rs).reach rs.length).add r).fail cause =
      .ok (failed name runId rs r cause) := rfl

def Cut.outcome (name runId : String) (rs : List StepResult) : Cut ε → Except (Stop ε) Report
  | .start e | .execution e | .finish _ e => .error (.raised e)
  | .failure r cause => .ok (failed name runId rs r cause)

theorem runSteps_append {index : Nat} {done : List Step} {w w' : σ} {cs : List Completion}
    {rs : List StepResult} (h : Passed ex hooks context index done w cs rs w')
    (total : Nat) (name runId : String) (rest : List Step) (before : List StepResult)
    (position : index = before.length) :
    runSteps ex hooks context total index (done ++ rest) (soFar name runId before) w =
      (runSteps ex hooks context total (index + done.length) rest
        (soFar name runId (before ++ rs)) w').after
        (cycles ex hooks context total index done) := by
  -- The report so far carries the induction: it has as many results as the index counts.
  induction h generalizing before with
  | nil index w => simp [Run.after, cycles]
  | @cons index s done w w' w'' c cs r rs first others ih =>
    have counted : (((soFar name runId before).reach index).add r).count =
        soFar name runId (before ++ [r]) := by
      simp [Report.reach, Report.add, Report.count, soFar, position]
    have later := ih (before ++ [r]) (by simp [position])
    simp only [List.cons_append, runSteps, runStep_of_passes total first, counted, later]
    simp [Run.after, cycles, Nat.add_assoc, Nat.add_comm 1]

variable {p : Pipeline} {runId : String} {w : σ}

/-- The run of a pipeline is its loop, from a report that has nothing in it. -/
theorem run_eq_timed : p.run ex hooks context runId w =
    let run := runSteps ex hooks (p.baseContext context) p.size 0 p.steps (soFar p.name runId []) w
    run.timed (ex.elapsedMs w run.state) := rfl

theorem run_of_passed {cs : List Completion} {rs : List StepResult} {w' : σ}
    (h : Passed ex hooks (p.baseContext context) 0 p.steps w cs rs w') :
    p.run ex hooks context runId w =
      Run.timed ⟨cycles ex hooks (p.baseContext context) p.size 0 p.steps,
        .ok (succeeded p.name runId rs), w'⟩ (ex.elapsedMs w w') := by
  have loop := runSteps_append h p.size p.name runId [] [] rfl
  rw [List.append_nil] at loop
  rw [run_eq_timed, loop]
  simp [runSteps, soFar_succeeds, Run.after]

theorem run_of_cut {done rest : List Step} {s : Step} {cs : List Completion}
    {rs : List StepResult} {w₁ w₂ : σ} {cut : Cut ε} (split : p.steps = done ++ s :: rest)
    (passed : Passed ex hooks (p.baseContext context) 0 done w cs rs w₁)
    (h : CutBy ex hooks (p.baseContext context) done.length s w₁ cut w₂) :
    p.run ex hooks context runId w =
      Run.timed ⟨cycles ex hooks (p.baseContext context) p.size 0 done ++
          cut.events ex hooks (p.baseContext context) p.size done.length s,
        cut.outcome p.name runId rs, w₂⟩ (ex.elapsedMs w w₂) := by
  have loop := runSteps_append passed p.size p.name runId (s :: rest) [] rfl
  have count : rs.length = done.length := passed.length_eq.2
  rw [run_eq_timed, split, loop]
  simp only [runSteps, Nat.zero_add, List.nil_append, runStep_of_cutBy p.size h]
  cases cut with
  | failure r cause =>
    have fails := soFar_fails p.name runId rs r cause
    rw [count] at fails
    simp [Cut.ending, Cut.outcome, fails, Run.after]
  | start e => simp [Cut.ending, Cut.outcome, Run.after]
  | execution e => simp [Cut.ending, Cut.outcome, Run.after]
  | finish success e => simp [Cut.ending, Cut.outcome, Run.after]

end Runs

section Listed

/-- An executor that gives the answers of a list, one after the other, and then breaks down. Its
clock stands still. -/
def listed : Executor (List (Reply Unit)) Unit where
  execute _ _ _
    | [] => (.crashed (), [])
    | reply :: rest => (reply, rest)
  announce _ _ _ := []
  elapsedMs _ _ := .ok 0

def build : Pipeline where
  name := "build"
  steps := [
    ⟨["make"], "", ∅, none, by decide⟩,
    ⟨["make", "test"], "", .ofPairs [("MODE", "slow"), ("JOBS", "4")], some (.text "/tmp//out/."),
      by decide⟩]
  env := .ofPairs [("MODE", "fast"), ("HOME", "/work")]
  nonempty := by simp

def source : Context := ⟨.ofString "/src", .ofPairs [("HOME", "/root"), ("PATH", "/bin")]⟩

end Listed

end Stepwise.Course
