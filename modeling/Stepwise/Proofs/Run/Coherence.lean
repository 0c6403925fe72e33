import Stepwise.Proofs.Run.Course

/-! What a report says. A run that comes to a report has either passed all steps or failed at one,
and everything in the report agrees on which: counts, results, state, failure and exit code. Each
result is what the executor answered for the step of its place, read off the answers of the run
itself. -/
namespace Stepwise

def Reply.completion? {ε : Type} : Reply ε → Option Completion
  | completed c => some c
  | unstartable .. | crashed _ => none

theorem Report.failureExitCode_bounds (failure : Option Failure) :
    1 ≤ Report.failureExitCode failure ∧ Report.failureExitCode failure ≤ 255 := by
  unfold Report.failureExitCode Report.fallbackExitCode
  split
  · split
    · omega
    · split <;> omega
  · omega

namespace Course

section Definitions

variable {σ ε : Type} (ex : Executor σ ε) (hooks : Hooks σ ε) (context : Context)

/-- What the executor answers, one after the other, for the first steps of a run. -/
inductive Answers : Nat → List Step → σ → List (Reply ε) → Prop where
  | none (index : Nat) (steps : List Step) (w : σ) : Answers index steps w []
  | last {index : Nat} {s : Step} {rest : List Step} {w before after : σ} {reply : Reply ε}
      (started : Called hooks.onStart index s w Option.none before)
      (replied : ex.execute s.executable s.args (context.forStep s) before = (reply, after)) :
      Answers index (s :: rest) w [reply]
  | next {index : Nat} {s : Step} {rest : List Step} {w w' : σ} {c : Completion} {r : StepResult}
      {replies : List (Reply ε)}
      (first : Passes ex hooks context index s w c r w')
      (others : Answers (index + 1) rest w' replies) :
      Answers index (s :: rest) w (.completed c :: replies)

/-- The result is that of the step at an index for which the executor gave an answer. -/
structure Entry (index : Nat) (s : Step) (reply : Reply ε) (e : StepResult) : Prop where
  index_eq : e.index = index
  name_eq : e.name = s.name
  command_eq : e.command = s.command
  exitCode_eq : e.exitCode = reply.completion?.map Completion.exitCode
  stdout_eq : e.stdout = reply.completion?.bind Completion.stdout
  stderr_eq : e.stderr = reply.completion?.bind Completion.stderr

/-- The result of a step that ended well. -/
structure Well (e : StepResult) : Prop where
  success : e.success = true
  exitCode : e.exitCode = some 0
  error : e.error = none

/-- The failure is what an answer means for the step at an index, which it names itself. -/
def FailureOf (index : Nat) (s : Step) (reply : Reply ε) (cause : Failure) : Prop :=
  (∃ c, reply = .completed c ∧ c.exitCode ≠ 0 ∧
    cause = .exited index s.command c.exitCode) ∨
  ∃ own command reason, reply = .unstartable own command reason ∧
    cause = .unstartable (some (index : Int)) command reason

/-- All parts of a report say that every step passed. -/
structure Success (p : Pipeline) (replies : List (Reply ε)) (r : Report) : Prop where
  answers : ∀ reply ∈ replies, ∃ c, reply = .completed c ∧ c.exitCode = 0
  success : r.success = true
  failure : r.failure = none
  failedIndex : r.failedIndex = none
  raised : r.raiseForFailure = .ok ()
  stepsRun : r.stepsRun = p.size
  results : r.stepResults.length = p.size
  well : ∀ e ∈ r.stepResults, Well e
  status : r.state.status = .succeeded
  terminated : r.state.terminated = false
  cause : r.state.cause = none
  currentStep : r.state.currentStep = p.size - 1
  exitCode : r.exitCode = 0

/-- All parts of a report say that the step at an index failed, and for the same reason. -/
structure FailureAt (p : Pipeline) (replies : List (Reply ε)) (r : Report) (i : Nat) (s : Step)
    (cause : Failure) : Prop where
  inside : p.steps[i]? = some s
  answer : ∃ reply, replies[i]? = some reply ∧ FailureOf i s reply cause
  success : r.success = false
  failure : r.failure = some cause
  failedIndex : r.failedIndex = some (i : Int)
  raised : r.raiseForFailure = .error cause
  stepsRun : r.stepsRun = i
  results : r.stepResults.length = i + 1
  well : ∀ e ∈ r.stepResults.take i, Well e
  last : ∃ e, r.stepResults[i]? = some e ∧ e.success = false ∧ e.error = some cause.message
  status : r.state.status = .failed
  terminated : r.state.terminated = true
  cause : r.state.cause = some cause
  currentStep : r.state.currentStep = i
  exitCode : 1 ≤ r.exitCode ∧ r.exitCode ≤ 255

/-- A report agrees with itself and with the answers of the run. -/
structure Coherent (p : Pipeline) (runId : String) (replies : List (Reply ε)) (r : Report) :
    Prop where
  names : r.pipelineName = p.name ∧ r.runId = runId
  answered : replies.length = r.stepResults.length
  entries : ∀ j e, r.stepResults[j]? = some e →
    ∃ s reply, p.steps[j]? = some s ∧ replies[j]? = some reply ∧ Entry j s reply e
  ended : Success p replies r ∨ ∃ i s cause, FailureAt p replies r i s cause

end Definitions

section Results

variable {σ ε : Type} {ex : Executor σ ε} {hooks : Hooks σ ε} {context : Context}

theorem Executed.entry {index : Nat} {s : Step} {w after : σ} {reply : Reply ε}
    {outcome : StepOutcome} {r : StepResult}
    (h : Executed ex hooks context index s w reply outcome r after) : Entry index s reply r := by
  obtain ⟨_, _, _, yields⟩ := h
  cases yields <;> exact ⟨rfl, rfl, rfl, rfl, rfl, rfl⟩

theorem Executed.failureOf {index : Nat} {s : Step} {w after : σ} {reply : Reply ε}
    {cause : Failure} {c : Option Completion} {r : StepResult}
    (h : Executed ex hooks context index s w reply (.failed cause c) r after) :
    FailureOf index s reply cause := by
  obtain ⟨_, _, _, yields⟩ := h
  cases yields with
  | exited nonzero told => exact .inl ⟨_, rfl, nonzero, told⟩
  | unstarted told => exact .inr ⟨_, _, _, rfl, told⟩

/-- A failure names the step at which it came up, even if the executor named another. -/
theorem FailureOf.index_eq {index : Nat} {s : Step} {reply : Reply ε} {cause : Failure}
    (h : FailureOf index s reply cause) : cause.index = some (index : Int) := by
  rcases h with ⟨c, -, -, rfl⟩ | ⟨own, command, reason, -, rfl⟩
  · rfl
  · rfl

theorem Executed.error {index : Nat} {s : Step} {w after : σ} {reply : Reply ε}
    {outcome : StepOutcome} {r : StepResult}
    (h : Executed ex hooks context index s w reply outcome r after) :
    r.error = outcome.cause?.map Failure.message := by
  obtain ⟨_, _, _, yields⟩ := h
  cases yields <;> rfl

theorem Passes.well {index : Nat} {s : Step} {w w' : σ} {c : Completion} {r : StepResult}
    (h : Passes ex hooks context index s w c r w') :
    c.exitCode = 0 ∧ Entry index s (.completed c : Reply ε) r ∧ Well r := by
  obtain ⟨after, executed, -⟩ := h
  have zero : c.exitCode = 0 := by
    obtain ⟨_, _, _, yields⟩ := executed
    cases yields with
    | passed zero => exact zero
  have entry := executed.entry
  refine ⟨zero, entry, executed.index_success.2, ?_, executed.error⟩
  rw [entry.exitCode_eq]
  exact congrArg some zero

theorem Passed.entries {index : Nat} {steps : List Step} {w w' : σ} {cs : List Completion}
    {rs : List StepResult} (h : Passed ex hooks context index steps w cs rs w') (j : Nat)
    (e : StepResult) (place : rs[j]? = some e) :
    ∃ s c, steps[j]? = some s ∧ cs[j]? = some c ∧
      Entry (index + j) s (.completed c : Reply ε) e := by
  induction h generalizing j with
  | nil => cases place
  | @cons index s rest w w' w'' c cs r rs first others ih =>
    cases j with
    | zero =>
      obtain rfl : r = e := Option.some.inj place
      exact ⟨s, c, rfl, rfl, first.well.2.1⟩
    | succ j =>
      obtain ⟨t, d, step, answer, entry⟩ := ih j place
      rw [Nat.add_assoc, Nat.add_comm 1] at entry
      exact ⟨t, d, step, answer, entry⟩

theorem Passed.all_well {index : Nat} {steps : List Step} {w w' : σ} {cs : List Completion}
    {rs : List StepResult} (h : Passed ex hooks context index steps w cs rs w') :
    (∀ c ∈ cs, c.exitCode = 0) ∧ ∀ e ∈ rs, Well e := by
  induction h with
  | nil => simp
  | cons first others ih =>
    obtain ⟨zero, -, well⟩ := first.well
    exact ⟨List.forall_mem_cons.mpr ⟨zero, ih.1⟩, List.forall_mem_cons.mpr ⟨well, ih.2⟩⟩

theorem Passed.answers {index : Nat} {done rest : List Step} {w w' : σ} {cs : List Completion}
    {rs : List StepResult} {replies : List (Reply ε)}
    (h : Passed ex hooks context index done w cs rs w')
    (later : Answers ex hooks context (index + done.length) rest w' replies) :
    Answers ex hooks context index (done ++ rest) w (cs.map Reply.completed ++ replies) := by
  induction h with
  | nil => exact later
  | cons first others ih =>
    refine .next first (ih ?_)
    rwa [List.length_cons, Nat.add_comm _ 1, ← Nat.add_assoc] at later

end Results

section Reports

variable {σ ε : Type} {ex : Executor σ ε} {hooks : Hooks σ ε} {context : Context}
variable {p : Pipeline} {runId : String} {w w' : σ}

theorem timed_eq_ok {trace : List Event} {r r' : Report}
    {elapsed : Except ε Int} (h : (Run.timed ⟨trace, .ok r, w⟩ elapsed).outcome = .ok r') :
    ∃ durationMs, r' = { r with durationMs := durationMs } := by
  cases elapsed with
  | error e => cases h
  | ok ms => exact ⟨ms, (Except.ok.inj h).symm⟩

theorem succeeded_coherent {cs : List Completion} {rs : List StepResult} (durationMs : Int)
    (passed : Passed ex hooks context 0 p.steps w cs rs w') :
    Coherent p runId (cs.map fun c => (.completed c : Reply ε))
      { succeeded p.name runId rs with durationMs := durationMs } := by
  obtain ⟨answered, counted⟩ := passed.length_eq
  obtain ⟨zero, well⟩ := passed.all_well
  constructor
  case names => exact ⟨rfl, rfl⟩
  case answered => simp [succeeded, soFar, answered, counted]
  case entries =>
    intro j e place
    obtain ⟨s, c, step, answer, entry⟩ := passed.entries j e place
    rw [Nat.zero_add] at entry
    exact ⟨s, .completed c, step, by simp [answer], entry⟩
  case ended =>
    refine .inl ⟨?_, rfl, rfl, rfl, rfl, counted, counted, well, rfl, rfl, rfl, ?_, rfl⟩
    · intro reply member
      obtain ⟨c, inside, rfl⟩ := List.mem_map.mp member
      exact ⟨c, rfl, zero c inside⟩
    · exact congrArg (· - 1) counted

theorem failed_coherent {done rest : List Step} {s : Step} {cs : List Completion}
    {rs : List StepResult} {after : σ} {reply : Reply ε} {cause : Failure} {c : Option Completion}
    {r : StepResult} (durationMs : Int) (split : p.steps = done ++ s :: rest)
    (passed : Passed ex hooks context 0 done w cs rs w')
    (executed : Executed ex hooks context done.length s w' reply (.failed cause c) r after) :
    Coherent p runId (cs.map Reply.completed ++ [reply])
      { failed p.name runId rs r cause with durationMs := durationMs } := by
  obtain ⟨answered, counted⟩ := passed.length_eq
  have inside : p.steps[done.length]? = some s := by simp [split]
  have answer : (cs.map Reply.completed ++ [reply])[done.length]? = some reply := by
    simp [← answered]
  constructor
  case names => exact ⟨rfl, rfl⟩
  case answered => simp [failed, soFar, answered, counted]
  case entries =>
    intro j e place
    -- Before the failing step the results are those of the steps that passed; the last is its own.
    by_cases earlier : j < done.length
    · have inner : rs[j]? = some e := by
        rwa [failed, List.getElem?_append_left (counted ▸ earlier)] at place
      obtain ⟨t, d, step, given, entry⟩ := passed.entries j e inner
      rw [Nat.zero_add] at entry
      refine ⟨t, .completed d, ?_, ?_, entry⟩
      · rw [split, List.getElem?_append_left earlier, step]
      · rw [List.getElem?_append_left (by simpa [answered] using earlier), List.getElem?_map, given]
        rfl
    · have inRange : j < (rs ++ [r]).length := (List.getElem?_eq_some_iff.mp place).1
      have last : j = done.length := by
        rw [List.length_append, List.length_singleton, counted] at inRange
        omega
      subst last
      obtain rfl : r = e := by simpa [failed, ← counted] using place
      exact ⟨s, reply, inside, answer, executed.entry⟩
  case ended =>
    have cause_of := executed.failureOf
    refine .inr ⟨done.length, s, cause, ?_⟩
    exact {
      inside := inside
      answer := ⟨reply, answer, cause_of⟩
      success := rfl
      failure := rfl
      failedIndex := cause_of.index_eq
      raised := rfl
      stepsRun := counted
      results := by simp [failed, counted]
      well := by simpa [failed, ← counted] using passed.all_well.2
      last := ⟨r, by simp [failed, ← counted], executed.index_success.2, executed.error⟩
      status := rfl
      terminated := rfl
      cause := rfl
      currentStep := counted
      exitCode := Report.failureExitCode_bounds _ }

theorem coherent_of_reported {base : Context} {r : Report}
    (reported : (p.run ex hooks base runId w).outcome = .ok r) :
    ∃ replies, Answers ex hooks (p.baseContext base) 0 p.steps w replies ∧
      Coherent p runId replies r := by
  rcases passed_or_cut ex hooks (p.baseContext base) 0 p.steps w with
    ⟨cs, rs, w', passed⟩ | ⟨done, s, rest, cs, rs, w₁, cut, w₂, split, passed, cut_by⟩
  · rw [run_of_passed passed] at reported
    obtain ⟨durationMs, rfl⟩ := timed_eq_ok reported
    refine ⟨cs.map Reply.completed, ?_, succeeded_coherent durationMs passed⟩
    have answers := passed.answers (.none _ [] w')
    rwa [List.append_nil, List.append_nil] at answers
  · rw [Nat.zero_add] at cut_by
    rw [run_of_cut split passed cut_by] at reported
    -- Only a failure leaves a report; every other cut raises.
    cases cut_by with
    | start stopped => cases reported
    | crash started crashed => cases reported
    | clock started replied answered untimed => cases reported
    | finish executed stopped => cases reported
    | @failure after w₂ reply cause c failure executed finished =>
      obtain ⟨durationMs, rfl⟩ := timed_eq_ok reported
      refine ⟨cs.map Reply.completed ++ [reply], ?_,
        failed_coherent durationMs split passed executed⟩
      obtain ⟨started, replied, -, -⟩ := executed
      rw [split]
      exact passed.answers (.last (by rwa [Nat.zero_add]) replied)

/-- A run that comes to a report has it agree with itself and with what the executor answered. -/
theorem run_coherent (ex : Executor σ ε) (hooks : Hooks σ ε) (base : Context) (p : Pipeline)
    (runId : String) (w : σ) (r : Report)
    (reported : (p.run ex hooks base runId w).outcome = .ok r) :
    ∃ replies, Answers ex hooks (p.baseContext base) 0 p.steps w replies ∧
      Coherent p runId replies r :=
  coherent_of_reported reported

/-- The second command cannot be started, which the executor says of a step that there is not. The
report says it of the second step. -/
theorem run_coherent_unstartable :
    ∃ r, (build.run listed .silent source "run"
        [.completed ⟨0, none, none, 5⟩, .unstartable (some 7) ["make", "test"] "gone"]).outcome =
        .ok r ∧
      r.failedIndex = some 1 ∧ r.stepsRun = 1 ∧ r.exitCode = 1 ∧
      ∃ replies, Answers listed .silent (build.baseContext source) 0 build.steps
          [.completed ⟨0, none, none, 5⟩, .unstartable (some 7) ["make", "test"] "gone"] replies ∧
        Coherent build "run" replies r :=
  ⟨_, rfl, rfl, rfl, rfl, run_coherent listed .silent source build "run" _ _ rfl⟩

end Reports

end Course

end Stepwise
