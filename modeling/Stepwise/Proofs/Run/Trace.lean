import Stepwise.Proofs.Run.Course

/-! The law of traces. What is seen of a run is one cycle for each step that passes (its record, the
first hook, the call, the second hook), and then what the cut of the run leaves of one more cycle.
The commands that are handed over are therefore those of the first steps, each once and in order. -/
namespace Stepwise.Course

section Calls

variable {σ ε : Type} (ex : Executor σ ε) (hooks : Hooks σ ε) (context : Context) (total : Nat)

abbrev Call := String × List String × Context

def call? : Event → Option Call
  | .exec command args context => some (command, args, context)
  | _ => none

def calls (trace : List Event) : List Call := trace.filterMap call?

def callOf (s : Step) : Call := (s.executable, s.args, context.forStep s)

theorem calls_append (a b : List Event) : calls (a ++ b) = calls a ++ calls b :=
  List.filterMap_append

theorem calls_opening (index : Nat) (s : Step) : calls (opening hooks total index s) = [] := by
  unfold opening
  split <;> rfl

theorem calls_finishEvents (index : Nat) (success : Bool) :
    calls (hooks.finishEvents index success) = [] := by
  unfold Hooks.finishEvents
  split <;> rfl

theorem calls_handover (s : Step) : calls (handover ex context s) = [callOf context s] := by
  have records : ∀ rs : List LogRecord, calls (rs.map Event.log) = [] := by
    intro rs
    induction rs with
    | nil => rfl
    | cons r rs ih => exact ih
  exact congrArg (callOf context s :: ·) (records _)

theorem calls_cycle (index : Nat) (s : Step) (success : Bool) :
    calls (cycle ex hooks context total index s success) = [callOf context s] := by
  unfold cycle
  rw [calls_append, calls_append, calls_opening, calls_handover]
  exact congrArg (callOf context s :: ·) (calls_finishEvents hooks index success)

theorem calls_cycles (index : Nat) (steps : List Step) :
    calls (cycles ex hooks context total index steps) = steps.map (callOf context) := by
  induction steps generalizing index with
  | nil => rfl
  | cons s rest ih => simp [cycles, calls_append, calls_cycle, ih]

/-- A step at which the run is cut is called once, unless the first hook cut it. -/
theorem calls_cut (index : Nat) (s : Step) (cut : Cut ε) :
    calls (cut.events ex hooks context total index s) = [] ∨
      calls (cut.events ex hooks context total index s) = [callOf context s] := by
  cases cut with
  | start e => exact .inl (calls_opening hooks total index s)
  | execution e =>
    right
    simp [Cut.events, calls_append, calls_opening, calls_handover]
  | finish success e => exact .inr (calls_cycle ex hooks context total index s success)
  | failure r cause =>
    right
    rw [Cut.events, calls_append, calls_cycle]
    rfl

end Calls

section Law

variable {σ ε : Type} (ex : Executor σ ε) (hooks : Hooks σ ε) (context : Context)

/-- A run comes to a report, unless the clock cannot tell how long it took. -/
def Reports (elapsed : Except ε Int) (outcome : Except (Stop ε) Report) : Prop :=
  match elapsed with
  | .ok ms => ∃ r, outcome = .ok r ∧ r.durationMs = ms
  | .error e => outcome = .error (.raised e)

/-- What a run of some steps from a state on shows and how it ends: all steps pass, or the first
ones do and the run is cut at the next. -/
inductive TraceLaw (total : Nat) (steps : List Step) (w : σ) (run : Run σ ε) : Prop where
  | completed {cs : List Completion} {rs : List StepResult}
      (passed : Passed ex hooks context 0 steps w cs rs run.state)
      (trace : run.trace = cycles ex hooks context total 0 steps)
      (outcome : Reports (ex.elapsedMs w run.state) run.outcome)
  | cut {done rest : List Step} {s : Step} {cs : List Completion} {rs : List StepResult} {w₁ : σ}
      {cut : Cut ε}
      (split : steps = done ++ s :: rest)
      (passed : Passed ex hooks context 0 done w cs rs w₁)
      (cut_by : CutBy ex hooks context done.length s w₁ cut run.state)
      (trace : run.trace = cycles ex hooks context total 0 done ++
        cut.events ex hooks context total done.length s)
      (outcome : match cut.error? with
        | some e => run.outcome = .error (.raised e)
        | none => Reports (ex.elapsedMs w run.state) run.outcome)

theorem reports_timed (r : Report) (trace : List Event) (w w' : σ) :
    Reports (ex.elapsedMs w w') (Run.timed ⟨trace, .ok r, w'⟩ (ex.elapsedMs w w')).outcome := by
  cases ex.elapsedMs w w' with
  | ok ms => exact ⟨{ r with durationMs := ms }, rfl, rfl⟩
  | error e => rfl

theorem run_traceLaw (p : Pipeline) (base : Context) (runId : String) (w : σ) :
    TraceLaw ex hooks (p.baseContext base) p.size p.steps w (p.run ex hooks base runId w) := by
  rcases passed_or_cut ex hooks (p.baseContext base) 0 p.steps w with
    ⟨cs, rs, w', passed⟩ | ⟨done, s, rest, cs, rs, w₁, cut, w₂, split, passed, cut_by⟩
  · rw [run_of_passed passed]
    exact .completed passed rfl (reports_timed ex _ _ w w')
  · rw [Nat.zero_add] at cut_by
    rw [run_of_cut split passed cut_by]
    refine .cut split passed cut_by rfl ?_
    cases cut with
    | failure r cause => exact reports_timed ex _ _ w w₂
    | start e => rfl
    | execution e => rfl
    | finish success e => rfl

/-- The calls of a run are those of its first steps, and all of these but the last have passed. -/
theorem TraceLaw.calls_eq {total : Nat} {steps : List Step} {w : σ} {run : Run σ ε}
    (law : TraceLaw ex hooks context total steps w run) :
    ∃ k, k ≤ steps.length ∧ calls run.trace = (steps.take k).map (callOf context) ∧
      ∃ cs rs w₁, Passed ex hooks context 0 (steps.take (k - 1)) w cs rs w₁ := by
  cases law with
  | completed passed trace outcome =>
    refine ⟨steps.length, Nat.le_refl _, ?_, passed.take _⟩
    rw [trace, calls_cycles, List.take_length]
  | @cut done rest s cs rs w₁ cut split passed cut_by trace outcome =>
    have length : steps.length = done.length + (rest.length + 1) := by simp [split]
    rw [trace, calls_append, calls_cycles]
    rcases calls_cut ex hooks context total done.length s cut with none | one
    · refine ⟨done.length, by omega, by simp [none, split], ?_⟩
      have before : steps.take (done.length - 1) = done.take (done.length - 1) := by
        rw [split, List.take_append_of_le_length (Nat.sub_le _ _)]
      exact before ▸ passed.take _
    · have called : steps.take (done.length + 1) = done ++ [s] := by
        rw [split, List.take_length_add_append, List.take_succ_cons, List.take_zero]
      have before : steps.take done.length = done := by rw [split, List.take_left]
      refine ⟨done.length + 1, by omega, by simp [one, called], cs, rs, w₁, ?_⟩
      rw [Nat.add_sub_cancel, before]
      exact passed

/-- Whatever the executor answers and the hooks do, a run shows one cycle for each step that passes
and is cut as the first step that does not pass says; it raises the error of that cut, or else
reports. It hands over the commands of its first steps, each once and in order, and nothing after a
step that did not pass. -/
theorem run_trace (p : Pipeline) (base : Context) (runId : String) (w : σ) :
    let run := p.run ex hooks base runId w
    let context := p.baseContext base
    TraceLaw ex hooks context p.size p.steps w run ∧
      ∃ k, k ≤ p.size ∧ calls run.trace = (p.steps.take k).map (callOf context) ∧
        ∃ cs rs w₁, Passed ex hooks context 0 (p.steps.take (k - 1)) w cs rs w₁ := by
  have law := run_traceLaw ex hooks p base runId w
  exact ⟨law, law.calls_eq⟩

def watching (limit : Nat) : Hooks (List (Reply Unit)) Unit where
  onStart := some fun index _ w => (if index = limit then some () else none, w)
  onFinish := some fun _ _ w => (none, w)

/-- A build whose first step ends with code 7 is cut there, after the second hook and a warning. One
whose second step is stopped by the first hook shows nothing after the call of that hook. -/
theorem run_trace_watched :
    let make : Event := .exec "make" []
      ⟨.ofString "/src", .ofPairs [("HOME", "/work"), ("PATH", "/bin"), ("MODE", "fast")]⟩
    let failing := build.run listed (watching 2) source "run" [.completed ⟨7, none, none, 5⟩]
    let stopped := build.run listed (watching 1) source "run" [.completed ⟨0, none, none, 5⟩]
    (TraceLaw listed (watching 2) (build.baseContext source) 2 build.steps
        [.completed ⟨7, none, none, 5⟩] failing ∧
      failing.trace = [.log ⟨Log.runner, .debug, "Step 1/2: make"⟩, .start 0 "make", make,
        .finish 0 false, .log ⟨Log.runner, .warning, "Step 0 failed with exit code 7: make"⟩] ∧
      ∃ r, failing.outcome = .ok r ∧ r.exitCode = 7) ∧
    TraceLaw listed (watching 1) (build.baseContext source) 2 build.steps
        [.completed ⟨0, none, none, 5⟩] stopped ∧
      stopped.trace = [.log ⟨Log.runner, .debug, "Step 1/2: make"⟩, .start 0 "make", make,
        .finish 0 true, .log ⟨Log.runner, .debug, "Step 2/2: make test"⟩, .start 1 "make test"] ∧
      stopped.outcome = .error (.raised ()) := by
  intro make failing stopped
  obtain ⟨law, -⟩ := run_trace listed (watching 2) build source "run"
    [.completed ⟨7, none, none, 5⟩]
  obtain ⟨law', -⟩ := run_trace listed (watching 1) build source "run"
    [.completed ⟨0, none, none, 5⟩]
  exact ⟨⟨law, by decide +kernel, _, rfl, rfl⟩, law', by decide +kernel, rfl⟩

end Law

section Openings

variable {σ ε : Type} {ex : Executor σ ε} {hooks : Hooks σ ε} {context : Context}
variable {P : Nat → Step → Prop} {total : Nat}

/-- Every command in a trace is that of a step with a property, and what is seen of the first hook
for that step stands right before it. -/
def Opened (hooks : Hooks σ ε) (P : Nat → Step → Prop) (trace : List Event) : Prop :=
  ∀ before command args context after, trace = before ++ .exec command args context :: after →
    ∃ earlier index s, P index s ∧ s.executable = command ∧ s.args = args ∧
      before = earlier ++ hooks.startEvents index s

theorem calls_exec_ne_nil (before : List Event) (command : String) (args : List String)
    (context : Context) (after : List Event) :
    calls (before ++ .exec command args context :: after) ≠ [] := by
  rw [calls_append]
  exact List.append_ne_nil_of_right_ne_nil _ (List.cons_ne_nil _ _)

theorem Opened.of_no_calls {trace : List Event} (h : calls trace = []) : Opened hooks P trace := by
  rintro before command args context after rfl
  exact absurd h (calls_exec_ne_nil before command args context after)

theorem Opened.append {a b : List Event} (ha : Opened hooks P a) (hb : Opened hooks P b) :
    Opened hooks P (a ++ b) := by
  intro before command args context after split
  rcases List.append_eq_append_iff.mp split with ⟨l, rfl, second⟩ | ⟨l, rfl, second⟩
  · obtain ⟨earlier, index, s, has, command', args', rfl⟩ := hb _ _ _ _ _ second
    exact ⟨a ++ earlier, index, s, has, command', args', (List.append_assoc ..).symm⟩
  · cases l with
    | nil =>
      obtain ⟨earlier, index, s, has, command', args', none⟩ := hb [] _ _ _ _ second.symm
      obtain ⟨rfl, nothing⟩ := List.append_eq_nil_iff.mp none.symm
      exact ⟨before, index, s, has, command', args', by rw [nothing, List.append_nil]⟩
    | cons e l =>
      obtain ⟨rfl, rfl⟩ := List.cons.inj second
      exact ha before command args context l rfl

theorem call_unique {e : Event} {a b before after : List Event} {command : String}
    {args : List String} (ahead : calls a = []) (behind : calls b = [])
    (split : a ++ e :: b = before ++ .exec command args context :: after) :
    before = a ∧ e = .exec command args context := by
  rcases List.append_eq_append_iff.mp split with ⟨l, rfl, second⟩ | ⟨l, rfl, second⟩
  · cases l with
    | nil => exact ⟨List.append_nil a, (List.cons.inj second).1⟩
    | cons d l =>
      obtain ⟨-, rfl⟩ := List.cons.inj second
      exact absurd behind (calls_exec_ne_nil l command args context after)
  · cases l with
    | nil => exact ⟨(List.append_nil before).symm, (List.cons.inj second).1.symm⟩
    | cons d l =>
      obtain ⟨rfl, -⟩ := List.cons.inj second
      exact absurd ahead (calls_exec_ne_nil before command args context l)

theorem Opened.opening_call {index : Nat} {s : Step} (has : P index s) :
    Opened hooks P (opening hooks total index s ++ handover ex context s) := by
  intro before command args context' after split
  have records :
      calls ((ex.announce s.executable s.args (context.forStep s)).map Event.log) = [] := by
    simp [calls, call?, List.filterMap_map, Function.comp_def]
  obtain ⟨rfl, called⟩ := call_unique (calls_opening hooks total index s) records split
  cases called
  exact ⟨[.log (stepRecord index total s)], index, s, has, rfl, rfl, rfl⟩

theorem Opened.cycle {index : Nat} {s : Step} (has : P index s) (success : Bool) :
    Opened hooks P (cycle ex hooks context total index s success) :=
  (Opened.opening_call has).append (.of_no_calls (calls_finishEvents hooks index success))

/-- The step at an index of a list, which the first hook let be executed. -/
def LetRun (hooks : Hooks σ ε) (steps : List Step) (index : Nat) (s : Step) : Prop :=
  steps[index]? = some s ∧ ∃ w w', hooks.start index s w = (none, w')

theorem Executed.letRun {steps : List Step} {index : Nat} {s : Step} {w after : σ}
    {reply : Reply ε} {outcome : StepOutcome} {r : StepResult} (inside : steps[index]? = some s)
    (h : Executed ex hooks context index s w reply outcome r after) :
    LetRun hooks steps index s := by
  obtain ⟨started, -, -, -⟩ := h
  exact ⟨inside, _, _, called_onStart.mp started⟩

theorem Passed.opened {index : Nat} {steps rest : List Step} {w w' : σ} {cs : List Completion}
    {rs : List StepResult} (h : Passed ex hooks context index rest w cs rs w')
    (inside : ∀ j s, rest[j]? = some s → steps[index + j]? = some s) :
    Opened hooks (LetRun hooks steps) (cycles ex hooks context total index rest) := by
  induction h with
  | nil => exact .of_no_calls rfl
  | @cons index s rest w w' w'' c cs r rs first others ih =>
    obtain ⟨after, executed, -⟩ := first
    have here : steps[index]? = some s := inside 0 s rfl
    refine (Opened.cycle (executed.letRun here) true).append (ih fun j t place => ?_)
    rw [Nat.add_assoc, Nat.add_comm 1]
    exact inside (j + 1) t place

theorem CutBy.opened {steps : List Step} {index : Nat} {s : Step} {w w' : σ} {cut : Cut ε}
    (h : CutBy ex hooks context index s w cut w') (inside : steps[index]? = some s) :
    Opened hooks (LetRun hooks steps) (cut.events ex hooks context total index s) := by
  cases h with
  | start stopped => exact .of_no_calls (calls_opening hooks total index s)
  | crash started crashed => exact .opening_call ⟨inside, _, _, called_onStart.mp started⟩
  | clock started replied answered untimed =>
    exact .opening_call ⟨inside, _, _, called_onStart.mp started⟩
  | finish executed stopped => exact .cycle (executed.letRun inside) _
  | failure executed finished =>
    exact (Opened.cycle (executed.letRun inside) false).append (.of_no_calls rfl)

/-- Before every command of a run its step was opened: what is seen of the first hook stands right
before the command, and the hook let the step be executed. -/
theorem run_opened (ex : Executor σ ε) (hooks : Hooks σ ε) (p : Pipeline) (base : Context)
    (runId : String) (w : σ) :
    Opened hooks (LetRun hooks p.steps) (p.run ex hooks base runId w).trace := by
  cases run_traceLaw ex hooks p base runId w with
  | completed passed trace outcome =>
    rw [trace]
    exact passed.opened fun j s place => by rwa [Nat.zero_add]
  | @cut done rest s cs rs w₁ cut split passed cut_by trace outcome =>
    rw [trace]
    refine (passed.opened fun j t place => ?_).append (cut_by.opened ?_)
    · have small := (List.getElem?_eq_some_iff.mp place).1
      rw [Nat.zero_add, split, List.getElem?_append_left small, place]
    · simp [split]

end Openings

end Stepwise.Course
