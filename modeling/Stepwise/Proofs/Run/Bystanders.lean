import Stepwise.Proofs.Run.Coherence
import Stepwise.Proofs.Run.Trace

/-! What has no part in the course of a run. Captured output is carried into the results and nothing
reads it on the way, so a run without it is the same run. Hooks that let every step go on leave the
report of a run and its calls as they are. -/
namespace Stepwise

section Output

variable {σ ε : Type}

/-- What a command gave, without its output. In the same way an answer, a result, a turn, a report
and a whole run are bare. -/
def Completion.bare (c : Completion) : Completion := { c with stdout := none, stderr := none }

def Reply.bare : Reply ε → Reply ε
  | completed c => completed c.bare
  | reply => reply

def StepOutcome.bare : StepOutcome → StepOutcome
  | passed c => passed c.bare
  | failed cause c => failed cause (c.map Completion.bare)

def StepResult.bare (r : StepResult) : StepResult := { r with stdout := none, stderr := none }

def Ending.bare : Ending ε → Ending ε
  | stopped e => stopped e
  | failed r cause => failed r.bare cause
  | passed r => passed r.bare

def Turn.bare (t : Turn σ ε) : Turn σ ε := { t with ending := t.ending.bare }

def Report.bare (r : Report) : Report :=
  { r with stepResults := r.stepResults.map StepResult.bare }

def Run.bare (run : Run σ ε) : Run σ ε := { run with outcome := run.outcome.map Report.bare }

/-- The executor that gives the same answers without output. -/
def Executor.bare (ex : Executor σ ε) : Executor σ ε :=
  { ex with execute := fun command args context w =>
      let answer := ex.execute command args context w
      (answer.1.bare, answer.2) }

theorem Reply.outcome_bare (index : Nat) (command : List String) (reply : Reply ε) :
    reply.bare.outcome index command = (reply.outcome index command).map StepOutcome.bare := by
  cases reply with
  | completed c =>
    simp only [bare, outcome, Completion.bare]
    split <;> rfl
  | unstartable own command reason => rfl
  | crashed e => rfl

theorem StepOutcome.cause?_bare (o : StepOutcome) : o.bare.cause? = o.cause? := by
  cases o <;> rfl

theorem StepResult.of_bare (index : Nat) (s : Step) (o : StepOutcome) (elapsedMs : Int) :
    StepResult.of index s o.bare elapsedMs = (StepResult.of index s o elapsedMs).bare := by
  rcases o with c | ⟨cause, _ | c⟩ <;> rfl

theorem closeTurn_bare (r : StepResult) (cause : Option Failure) (w : σ) :
    closeTurn .silent r.bare cause w = (closeTurn (.silent : Hooks σ ε) r cause w).bare := by
  cases cause <;> rfl

theorem runStep_bare (ex : Executor σ ε) (context : Context) (total index : Nat) (s : Step)
    (w : σ) :
    runStep ex.bare .silent context total index s w =
      (runStep ex .silent context total index s w).bare := by
  rcases replied : ex.execute s.executable s.args (context.forStep s) w with ⟨reply, after⟩
  have inner : ex.bare.execute s.executable s.args (context.forStep s) w = (reply.bare, after) := by
    simp [Executor.bare, replied]
  have clock : ex.bare.elapsedMs w after = ex.elapsedMs w after := rfl
  have meaning := Reply.outcome_bare index s.command reply
  simp only [runStep, Hooks.start, Hooks.silent, replied, inner, clock]
  cases meant : reply.outcome index s.command with
  | error e =>
    rw [meant] at meaning
    simp only [meaning, Except.map]
    rfl
  | ok outcome =>
    rw [meant] at meaning
    simp only [meaning, Except.map]
    cases timed : ex.elapsedMs w after with
    | error e => rfl
    | ok elapsed =>
      simp only [StepResult.of_bare, StepOutcome.cause?_bare]
      rw [← Hooks.silent, closeTurn_bare]
      rfl

theorem Run.closing_bare (report report' : Except TransitionError Report) (w : σ)
    (h : report' = report.map Report.bare) :
    (closing report' w : Run σ ε) = (closing report w).bare := by
  subst h
  cases report <;> rfl

theorem Report.add_bare (r : Report) (result : StepResult) :
    r.bare.add result.bare = (r.add result).bare := by
  simp [bare, add]

theorem runSteps_bare (ex : Executor σ ε) (context : Context) (total index : Nat)
    (steps : List Step) (report : Report) (w : σ) :
    runSteps ex.bare .silent context total index steps report.bare w =
      (runSteps ex .silent context total index steps report w).bare := by
  induction steps generalizing index report w with
  | nil =>
    simp only [runSteps]
    apply Run.closing_bare
    simp only [Report.transition, Report.bare]
    cases report.state.transition .succeeded <;> rfl
  | cons s rest ih =>
    simp only [runSteps, runStep_bare]
    cases ended : (runStep ex .silent context total index s w).ending with
    | stopped e =>
      simp only [Turn.bare, ended, Ending.bare]
      rfl
    | failed r cause =>
      simp only [Turn.bare, ended, Ending.bare]
      rw [Run.closing_bare (((report.reach index).add r).fail cause)]
      · rfl
      · have reached : report.bare.reach index = (report.reach index).bare := rfl
        rw [reached, Report.add_bare]
        simp only [Report.fail, Report.bare]
        cases ((report.reach index).add r).state.fail cause <;> rfl
    | passed r =>
      simp only [Turn.bare, ended, Ending.bare]
      have counted : ((report.bare.reach index).add r.bare).count =
          (((report.reach index).add r).count).bare := by
        have reached : report.bare.reach index = (report.reach index).bare := rfl
        rw [reached, Report.add_bare]
        rfl
      rw [counted, ih]
      rfl

theorem Run.timed_bare (run : Run σ ε) (elapsed : Except ε Int) :
    run.bare.timed elapsed = (run.timed elapsed).bare := by
  rcases run with ⟨trace, _ | r, w⟩
  · rfl
  · cases elapsed <;> rfl

/-- Output has no part in a run: without it the run is the same, and its report says the same of
everything else. -/
theorem run_bare (ex : Executor σ ε) (base : Context) (p : Pipeline) (runId : String) (w : σ) :
    p.run ex.bare .silent base runId w = (p.run ex .silent base runId w).bare := by
  have start : Course.soFar p.name runId [] = (Course.soFar p.name runId []).bare := rfl
  rw [Course.run_eq_timed, start, runSteps_bare]
  exact Run.timed_bare _ _

/-- Two executors give the same answers, apart from what they capture. -/
def Executor.Alike (ex ex' : Executor σ ε) : Prop := ex.bare = ex'.bare

/-- Executors that answer alike run alike: the same is seen of them, and their reports differ in
output only. -/
theorem Executor.Alike.run {ex ex' : Executor σ ε} (alike : ex.Alike ex') {base : Context}
    {p : Pipeline} {runId : String} {w : σ} {r : Report}
    (reported : (p.run ex .silent base runId w).outcome = .ok r) :
    ∃ r', (p.run ex' .silent base runId w).outcome = .ok r' ∧ r'.bare = r.bare ∧
      (p.run ex' .silent base runId w).trace = (p.run ex .silent base runId w).trace := by
  have same : (p.run ex .silent base runId w).bare = (p.run ex' .silent base runId w).bare := by
    rw [← run_bare, ← run_bare, alike]
  have outcome := congrArg Run.outcome same
  simp only [Run.bare, reported] at outcome
  cases reported' : (p.run ex' .silent base runId w).outcome with
  | error e =>
    rw [reported'] at outcome
    cases outcome
  | ok r' =>
    rw [reported'] at outcome
    exact ⟨r', rfl, (Except.ok.inj outcome).symm, (congrArg Run.trace same).symm⟩

end Output

namespace Course

section Hooks

variable {σ ε : Type}

/-- The hooks let a step with a result go on, and leave the state as it is. -/
structure Admits (hooks : Hooks σ ε) (s : Step) (r : StepResult) : Prop where
  start : ∀ w, hooks.start r.index s w = (none, w)
  finish : ∀ w, hooks.finish r w = (none, w)

variable {ex : Executor σ ε} {hooks : Hooks σ ε} {context : Context}

theorem Executed.admitted {index : Nat} {s : Step} {w after : σ} {reply : Reply ε}
    {outcome : StepOutcome} {r : StepResult}
    (h : Executed ex .silent context index s w reply outcome r after) (admits : Admits hooks s r) :
    Executed ex hooks context index s w reply outcome r after := by
  have index_eq := h.index_success.1
  obtain ⟨started, replied, timed, yields⟩ := h
  have start := admits.start w
  rw [index_eq] at start
  obtain ⟨-, rfl⟩ := called_none.mp started
  exact ⟨called_onStart.mpr start, replied, timed, yields⟩

theorem Passed.admitted {index : Nat} {steps : List Step} {w w' : σ} {cs : List Completion}
    {rs : List StepResult} (h : Passed ex .silent context index steps w cs rs w')
    (admits : ∀ s ∈ steps, ∀ r ∈ rs, r.command = s.command → Admits hooks s r) :
    Passed ex hooks context index steps w cs rs w' := by
  induction h with
  | nil index w => exact .nil index w
  | @cons index s rest w w' w'' c cs r rs first others ih =>
    obtain ⟨_, executed, finished⟩ := first
    have here : Admits hooks s r := admits s (by simp) r (by simp) executed.entry.command_eq
    obtain ⟨-, rfl⟩ := called_none.mp finished
    have admitted := executed.admitted here
    refine .cons ⟨_, admitted, admitted.called_finish.mpr (here.finish _)⟩ (ih ?_)
    intro t member e inside
    exact admits t (List.mem_cons_of_mem s member) e (List.mem_cons_of_mem r inside)

theorem CutBy.failure_of_reported {index : Nat} {s : Step} {w w' : σ} {cut : Cut ε}
    {name runId : String} {rs : List StepResult} {trace : List Event} {elapsed : Except ε Int}
    {r : Report} (h : CutBy ex hooks context index s w cut w')
    (reported : (Run.timed ⟨trace, cut.outcome name runId rs, w'⟩ elapsed).outcome = .ok r) :
    ∃ e cause after reply c, cut = .failure e cause ∧
      Executed ex hooks context index s w reply (.failed cause c) e after ∧
      Called hooks.onFinish index e after none w' ∧
      ∃ durationMs, r = { failed name runId rs e cause with durationMs := durationMs } := by
  cases h with
  | start stopped => cases reported
  | crash started crashed => cases reported
  | clock started replied answered untimed => cases reported
  | finish executed stopped => cases reported
  | failure executed finished =>
    exact ⟨_, _, _, _, _, rfl, executed, finished, timed_eq_ok reported⟩

/-- The executor has an answer to each of the steps, whatever its state is, and its clock tells the
time. -/
structure Responds (ex : Executor σ ε) (context : Context) (steps : List Step) : Prop where
  answers : ∀ s ∈ steps, ∀ w e,
    (ex.execute s.executable s.args (context.forStep s) w).1 ≠ .crashed e
  clock : ∀ w w', ∃ ms, ex.elapsedMs w w' = .ok ms

theorem Responds.reports {base : Context} {p : Pipeline}
    (responds : Responds ex (p.baseContext base) p.steps) (runId : String) (w : σ) :
    ∃ r, (p.run ex .silent base runId w).outcome = .ok r := by
  rcases passed_or_cut ex .silent (p.baseContext base) 0 p.steps w with
    ⟨cs, rs, w', passed⟩ | ⟨done, s, rest, cs, rs, w₁, cut, w₂, split, passed, cut_by⟩
  · rw [run_of_passed passed]
    obtain ⟨ms, told⟩ := responds.clock w w'
    rw [told]
    exact ⟨_, rfl⟩
  · rw [Nat.zero_add] at cut_by
    rw [run_of_cut split passed cut_by]
    obtain ⟨ms, told⟩ := responds.clock w w₂
    rw [told]
    cases cut_by with
    | start stopped => cases (called_none.mp stopped).1
    | crash started crashed =>
      have inside : s ∈ p.steps := by simp [split]
      exact absurd (congrArg Prod.fst crashed) (responds.answers s inside _ _)
    | clock started replied answered untimed =>
      obtain ⟨elapsed, told⟩ := responds.clock _ _
      rw [told] at untimed
      cases untimed
    | finish executed stopped => cases (called_none.mp stopped).1
    | failure executed finished => exact ⟨_, rfl⟩

theorem Responds.of_alike {ex' : Executor σ ε} {steps : List Step} (alike : ex.Alike ex')
    (responds : Responds ex context steps) : Responds ex' context steps := by
  constructor
  · intro s member w e crashed
    have bare := congrArg (fun x : Executor σ ε =>
      (x.execute s.executable s.args (context.forStep s) w).1) alike
    simp only [Executor.bare, crashed] at bare
    have answered := responds.answers s member w
    cases reply : (ex.execute s.executable s.args (context.forStep s) w).1 with
    | completed c => simp [reply, Reply.bare] at bare
    | unstartable index command reason => simp [reply, Reply.bare] at bare
    | crashed e' => exact answered e' reply
  · have same : ex.bare.elapsedMs = ex'.bare.elapsedMs := congrArg Executor.elapsedMs alike
    exact (show ex.elapsedMs = ex'.elapsedMs from same) ▸ responds.clock

theorem calls_of_reported {base : Context} {p : Pipeline} {runId : String} {w : σ} {r : Report}
    (reported : (p.run ex hooks base runId w).outcome = .ok r) :
    calls (p.run ex hooks base runId w).trace =
      (p.steps.take r.stepResults.length).map (callOf (p.baseContext base)) := by
  rcases passed_or_cut ex hooks (p.baseContext base) 0 p.steps w with
    ⟨cs, rs, w', passed⟩ | ⟨done, s, rest, cs, rs, w₁, cut, w₂, split, passed, cut_by⟩
  · rw [run_of_passed passed] at reported ⊢
    obtain ⟨durationMs, rfl⟩ := timed_eq_ok reported
    simp [Run.timed, calls_cycles, succeeded, soFar, passed.length_eq.2]
  · rw [Nat.zero_add] at cut_by
    rw [run_of_cut split passed cut_by] at reported ⊢
    obtain ⟨e, cause, after, reply, c, rfl, executed, finished, durationMs, rfl⟩ :=
      cut_by.failure_of_reported reported
    have told : calls [.log ⟨Log.runner, .warning, cause.message⟩] = [] := rfl
    have taken : p.steps.take (done.length + 1) = done ++ [s] := by
      rw [split, List.take_length_add_append, List.take_succ_cons, List.take_zero]
    simp [Run.timed, Cut.events, calls_append, calls_cycles, calls_cycle, told, failed,
      passed.length_eq.2, taken]

/-- Hooks that let every step of a run go on change neither what it reports nor the state it
leaves. -/
theorem run_admitted {base : Context} {p : Pipeline} {runId : String} {w : σ} {r : Report}
    (reported : (p.run ex .silent base runId w).outcome = .ok r)
    (admits : ∀ s ∈ p.steps, ∀ e ∈ r.stepResults, e.command = s.command → Admits hooks s e) :
    (p.run ex hooks base runId w).outcome = .ok r ∧
      (p.run ex hooks base runId w).state = (p.run ex .silent base runId w).state := by
  rcases passed_or_cut ex .silent (p.baseContext base) 0 p.steps w with
    ⟨cs, rs, w', passed⟩ | ⟨done, s, rest, cs, rs, w₁, cut, w₂, split, passed, cut_by⟩
  · rw [run_of_passed passed] at reported ⊢
    obtain ⟨durationMs, rfl⟩ := timed_eq_ok reported
    rw [run_of_passed (passed.admitted admits)]
    exact ⟨reported, rfl⟩
  · rw [Nat.zero_add] at cut_by
    rw [run_of_cut split passed cut_by] at reported ⊢
    obtain ⟨e, cause, after, reply, c, rfl, executed, finished, durationMs, rfl⟩ :=
      cut_by.failure_of_reported reported
    have inside : ∀ t ∈ done ++ [s], t ∈ p.steps := by
      intro t member
      rw [split, List.append_cons]
      exact List.mem_append_left rest member
    have here : Admits hooks s e :=
      admits s (inside s (by simp)) e (by simp [failed]) executed.entry.command_eq
    have before : Passed ex hooks (p.baseContext base) 0 done w cs rs w₁ := by
      apply passed.admitted
      intro t member d result
      exact admits t (inside t (by simp [member])) d (by simp [failed, result])
    obtain ⟨-, rfl⟩ := called_none.mp finished
    have admitted := executed.admitted here
    have cut : CutBy ex hooks (p.baseContext base) done.length s w₁ (.failure e cause) w₂ :=
      .failure admitted (admitted.called_finish.mpr (here.finish w₂))
    rw [run_of_cut split before cut]
    exact ⟨reported, rfl⟩

end Hooks

end Course

end Stepwise
