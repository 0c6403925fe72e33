import Stepwise.Proofs.Run.Bystanders
import Stepwise.Script

/-! The output of commands that ended well has no part in a run. Two executors, each with a state of
its own, may differ in that output and nowhere else; then they are seen to do the same, and their
reports are the same but for it. A relation between the two states ties the runs together: what one
step keeps of it is kept by the loop. -/
namespace Stepwise

section Muting

variable {ε : Type}

/-- What a command gave, without its output if it ended well. In the same way answers, outcomes,
results and reports are muted. -/
def Completion.muted (c : Completion) : Completion := if c.exitCode = 0 then c.bare else c

def Reply.muted : Reply ε → Reply ε
  | completed c => completed c.muted
  | reply => reply

def StepOutcome.muted : StepOutcome → StepOutcome
  | passed c => passed c.bare
  | failed cause c => failed cause c

def StepResult.muted (r : StepResult) : StepResult := if r.success then r.bare else r

def Report.muted (r : Report) : Report :=
  { r with stepResults := r.stepResults.map StepResult.muted }

theorem Reply.outcome_muted (index : Nat) (command : List String) (reply : Reply ε) :
    reply.muted.outcome index command = (reply.outcome index command).map StepOutcome.muted := by
  cases reply with
  | completed c =>
    simp only [muted, outcome, Completion.muted]
    by_cases zero : c.exitCode = 0
    · simp [zero, Completion.bare, Except.map, StepOutcome.muted]
    · simp [zero, Except.map, StepOutcome.muted]
  | unstartable own command reason => rfl
  | crashed e => rfl

theorem StepOutcome.cause?_muted (o : StepOutcome) : o.muted.cause? = o.cause? := by
  cases o <;> rfl

theorem StepResult.of_muted (index : Nat) (s : Step) (o : StepOutcome) (elapsedMs : Int) :
    StepResult.of index s o.muted elapsedMs = (StepResult.of index s o elapsedMs).muted := by
  rcases o with c | ⟨cause, c⟩ <;> rfl

theorem StepResult.muted_eq {r r' : StepResult} (same : r.muted = r'.muted) :
    r.index = r'.index ∧ r.name = r'.name ∧ r.success = r'.success := by
  have kept : ∀ e : StepResult, e.muted.index = e.index ∧ e.muted.name = e.name ∧
      e.muted.success = e.success := by
    intro e
    unfold muted
    split <;> exact ⟨rfl, rfl, rfl⟩
  obtain ⟨index, name, success⟩ := kept r
  obtain ⟨index', name', success'⟩ := kept r'
  rw [← index, ← name, ← success, same]
  exact ⟨index', name', success'⟩

theorem Report.transition_muted (r : Report) (status : Status) :
    r.muted.transition status = (r.transition status).map Report.muted := by
  simp only [transition, muted]
  cases r.state.transition status <;> rfl

theorem Report.fail_muted (r : Report) (cause : Failure) :
    r.muted.fail cause = (r.fail cause).map Report.muted := by
  simp only [fail, muted]
  cases r.state.fail cause <;> rfl

theorem Report.add_muted (r : Report) (index : Nat) (result : StepResult) :
    (r.muted.reach index).add result.muted = ((r.reach index).add result).muted := by
  simp [muted, add, reach]

end Muting

section Mirrors

/-- Results that are the same under a map are the same errors, or values that the map does not tell
apart. -/
theorem alike_of_map_eq {ε α β : Type} {f : α → β} {x y : Except ε α} (same : x.map f = y.map f) :
    (∃ e, x = .error e ∧ y = .error e) ∨ ∃ a b, x = .ok a ∧ y = .ok b ∧ f a = f b := by
  cases x with
  | error e =>
    cases y with
    | error e' => exact .inl ⟨e, rfl, congrArg Except.error (Except.error.inj same).symm⟩
    | ok b => cases same
  | ok a =>
    cases y with
    | error e' => cases same
    | ok b => exact .inr ⟨a, b, rfl, rfl, Except.ok.inj same⟩

variable {σ τ ε : Type} (R : σ → τ → Prop)

/-- Two turns end for one reason, with results alike. -/
inductive Ending.Mirrors : Ending ε → Ending ε → Prop where
  | stopped (e : ε) : Mirrors (.stopped e) (.stopped e)
  | failed {r r' : StepResult} (same : r.muted = r'.muted) (cause : Failure) :
      Mirrors (.failed r cause) (.failed r' cause)
  | passed {r r' : StepResult} (same : r.muted = r'.muted) : Mirrors (.passed r) (.passed r')

/-- Two executors answer alike but for what commands that ended well wrote, log the same and have
clocks that agree, as long as their states go together. -/
structure Executor.Mirrors (ex : Executor σ ε) (ex' : Executor τ ε) : Prop where
  execute : ∀ {w v}, R w v → ∀ command args c, ∃ reply reply' w' v',
    ex.execute command args c w = (reply, w') ∧ ex'.execute command args c v = (reply', v') ∧
      reply.muted = reply'.muted ∧ R w' v'
  announce : ex.announce = ex'.announce
  clock : ∀ {w w' v v'}, R w v → R w' v' → ex.elapsedMs w w' = ex'.elapsedMs v v'

/-- Two pairs of hooks do the same, even if they see results that differ in the output of a command
that ended well. -/
structure Hooks.Mirrors (hooks : Hooks σ ε) (hooks' : Hooks τ ε) : Prop where
  started : hooks.onStart.isSome = hooks'.onStart.isSome
  finished : hooks.onFinish.isSome = hooks'.onFinish.isSome
  start : ∀ {w v}, R w v → ∀ index s, ∃ stopped w' v',
    hooks.start index s w = (stopped, w') ∧ hooks'.start index s v = (stopped, v') ∧ R w' v'
  finish : ∀ {w v}, R w v → ∀ {r r'}, r.muted = r'.muted → ∃ stopped w' v',
    hooks.finish r w = (stopped, w') ∧ hooks'.finish r' v = (stopped, v') ∧ R w' v'

/-- Two turns show the same and end alike, and the states that they leave go together. -/
structure Turn.Mirrors (t : Turn σ ε) (t' : Turn τ ε) : Prop where
  trace : t.trace = t'.trace
  ending : t.ending.Mirrors t'.ending
  state : R t.state t'.state

/-- Two runs show the same and come to reports alike or stop for one reason, and the states that they
leave go together. -/
structure Run.Mirrors (run : Run σ ε) (run' : Run τ ε) : Prop where
  trace : run.trace = run'.trace
  outcome : run.outcome.map Report.muted = run'.outcome.map Report.muted
  state : R run.state run'.state

variable {R} {ex : Executor σ ε} {ex' : Executor τ ε} {hooks : Hooks σ ε} {hooks' : Hooks τ ε}

theorem Turn.Mirrors.after {t : Turn σ ε} {t' : Turn τ ε} (h : t.Mirrors R t')
    {events events' : List Event} (same : events = events') :
    (t.after events).Mirrors R (t'.after events') :=
  ⟨by simp only [Turn.after, same, h.trace], h.ending, h.state⟩

theorem Run.Mirrors.after {run : Run σ ε} {run' : Run τ ε} (h : run.Mirrors R run')
    {events events' : List Event} (same : events = events') :
    (run.after events).Mirrors R (run'.after events') :=
  ⟨by simp only [Run.after, same, h.trace], h.outcome, h.state⟩

theorem Run.Mirrors.timed {run : Run σ ε} {run' : Run τ ε} (h : run.Mirrors R run')
    (elapsed : Except ε Int) : (run.timed elapsed).Mirrors R (run'.timed elapsed) := by
  refine ⟨h.trace, ?_, h.state⟩
  rcases alike_of_map_eq h.outcome with ⟨e, one, other⟩ | ⟨r, r', one, other, same⟩
  · simp only [Run.timed, one, other]
  · simp only [Run.timed, one, other]
    cases elapsed with
    | error e => rfl
    | ok ms => exact congrArg (fun r : Report => Except.ok { r with durationMs := ms }) same

theorem Run.closing_mirrors {report report' : Except TransitionError Report}
    (same : report.map Report.muted = report'.map Report.muted) {w : σ} {v : τ} (related : R w v) :
    (closing report w : Run σ ε).Mirrors R (closing report' v) := by
  refine ⟨rfl, ?_, related⟩
  rcases alike_of_map_eq same with ⟨e, rfl, rfl⟩ | ⟨r, r', rfl, rfl, reports⟩
  · rfl
  · exact congrArg Except.ok reports

theorem Executor.Mirrors.callEvents (mirrors : ex.Mirrors R ex') (s : Step) (context : Context) :
    ex.callEvents s context = ex'.callEvents s context := by
  simp only [Executor.callEvents, mirrors.announce]

theorem closeTurn_mirrors (looks : hooks.Mirrors R hooks') {r r' : StepResult}
    (same : r.muted = r'.muted) (cause : Option Failure) {w : σ} {v : τ} (related : R w v) :
    (closeTurn hooks r cause w).Mirrors R (closeTurn hooks' r' cause v) := by
  obtain ⟨index, -, success⟩ := StepResult.muted_eq same
  obtain ⟨stopped, w', v', finished, finished', left⟩ := looks.finish related same
  have events : hooks.finishEvents r.index r.success = hooks'.finishEvents r'.index r'.success := by
    simp only [Hooks.finishEvents, looks.finished, index, success]
  simp only [closeTurn, finished, finished']
  refine Turn.Mirrors.after ?_ events
  cases stopped with
  | some e => exact ⟨rfl, .stopped e, left⟩
  | none =>
    cases cause with
    | none => exact ⟨rfl, .passed same, left⟩
    | some cause => exact ⟨rfl, .failed same cause, left⟩

theorem runStep_mirrors (mirrors : ex.Mirrors R ex') (looks : hooks.Mirrors R hooks')
    (context : Context) (total index : Nat) (s : Step) {w : σ} {v : τ} (related : R w v) :
    (runStep ex hooks context total index s w).Mirrors R
      (runStep ex' hooks' context total index s v) := by
  obtain ⟨stopped, before, before', started, started', let'⟩ := looks.start related index s
  have events : hooks.startEvents index s = hooks'.startEvents index s := by
    simp only [Hooks.startEvents, looks.started]
  simp only [runStep, started, started']
  refine Turn.Mirrors.after ?_ (by rw [events])
  cases stopped with
  | some e => exact ⟨rfl, .stopped e, let'⟩
  | none =>
    obtain ⟨reply, reply', after, after', replied, replied', answer, left⟩ :=
      mirrors.execute let' s.executable s.args (context.forStep s)
    simp only [replied, replied', ← mirrors.clock let' left]
    refine Turn.Mirrors.after ?_ (mirrors.callEvents s _)
    have meaning := congrArg (Reply.outcome index s.command) answer
    rw [Reply.outcome_muted, Reply.outcome_muted] at meaning
    rcases alike_of_map_eq meaning with ⟨e, meant, meant'⟩ | ⟨outcome, outcome', meant, meant', same⟩
    · simp only [meant, meant']
      exact ⟨rfl, .stopped e, left⟩
    · have cause : outcome.cause? = outcome'.cause? := by
        rw [← outcome.cause?_muted, same, outcome'.cause?_muted]
      simp only [meant, meant']
      cases ex.elapsedMs before after with
      | error e => exact ⟨rfl, .stopped e, left⟩
      | ok elapsed =>
        simp only [← cause]
        apply closeTurn_mirrors looks _ _ left
        rw [← StepResult.of_muted, same, StepResult.of_muted]

theorem runSteps_mirrors (mirrors : ex.Mirrors R ex') (looks : hooks.Mirrors R hooks')
    (context : Context) (total index : Nat) (steps : List Step) {report report' : Report}
    (same : report.muted = report'.muted) {w : σ} {v : τ} (related : R w v) :
    (runSteps ex hooks context total index steps report w).Mirrors R
      (runSteps ex' hooks' context total index steps report' v) := by
  induction steps generalizing index report report' w v with
  | nil =>
    apply Run.closing_mirrors _ related
    rw [← Report.transition_muted, same, Report.transition_muted]
  | cons s rest ih =>
    have turn := runStep_mirrors mirrors looks context total index s related
    have reached : ∀ {r r' : StepResult}, r.muted = r'.muted →
        ((report.reach index).add r).muted = ((report'.reach index).add r').muted := by
      intro r r' result
      rw [← Report.add_muted, same, result, Report.add_muted]
    simp only [runSteps]
    refine Run.Mirrors.after ?_ turn.trace
    have state := turn.state
    have ending := turn.ending
    generalize (runStep ex hooks context total index s w).ending = one at ending ⊢
    generalize (runStep ex' hooks' context total index s v).ending = other at ending ⊢
    cases ending with
    | stopped e => exact ⟨rfl, rfl, state⟩
    | failed result cause =>
      apply Run.closing_mirrors _ state
      rw [← Report.fail_muted, reached result, Report.fail_muted]
    | passed result =>
      apply ih _ _ state
      exact congrArg Report.count (reached result)

theorem run_mirrors (mirrors : ex.Mirrors R ex') (looks : hooks.Mirrors R hooks') (p : Pipeline)
    (base : Context) (runId : String) {w : σ} {v : τ} (related : R w v) :
    (p.run ex hooks base runId w).Mirrors R (p.run ex' hooks' base runId v) := by
  have loop := runSteps_mirrors mirrors looks (p.baseContext base) p.size 0 p.steps
    (rfl : (Course.soFar p.name runId []).muted = _) related
  rw [Course.run_eq_timed, Course.run_eq_timed]
  simp only [← mirrors.clock related loop.state]
  exact loop.timed _

end Mirrors

namespace Script

/-- An answer without its output, if that is of a command that ends well. In the same way entries and
scripts are muted. -/
def Answer.muted : Answer → Answer
  | completed c => completed c.muted
  | answer => answer

def Entry.muted (e : Entry) : Entry := { e with answer := e.answer.muted }

def muted (s : Script) : Script := { s with entries := s.entries.map Entry.muted }

def Answer.reply (argv : List String) : Answer → Reply Fault
  | completed c => .completed c
  | unstartable index reason => .unstartable index argv reason
  | crash f => .crashed f

theorem Answer.reply_muted (argv : List String) (answer : Answer) :
    (answer.reply argv).muted = answer.muted.reply argv := by
  cases answer <;> rfl

/-- Scripts that differ in the output of commands that end well, and in nothing else, answer
alike. -/
theorem executor_mirrors :
    Executor.Mirrors (fun s s' : Script => s.muted = s'.muted) executor executor := by
  constructor
  case announce => rfl
  case clock =>
    intro w w' v v' same same'
    simp only [executor, (Script.mk.inj same).1, (Script.mk.inj same').1]
  case execute =>
    intro s s' same command args c
    refine ⟨_, _, _, _, rfl, rfl, ?_⟩
    obtain ⟨now, entries⟩ := Script.mk.inj same
    show (s.answer command args).1.muted = (s'.answer command args).1.muted ∧
      (s.answer command args).2.muted = (s'.answer command args).2.muted
    cases left : s.entries with
    | nil =>
      have left' : s'.entries = [] := by simpa [left] using entries.symm
      simp only [answer, left, left', true_and]
      exact same
    | cons e rest =>
      cases left' : s'.entries with
      | nil => simp [left, left'] at entries
      | cons e' rest' =>
        rw [left, left'] at entries
        obtain ⟨first, others⟩ := List.cons.inj entries
        obtain ⟨takes, answers⟩ := Entry.mk.inj first
        simp only [answer, left, left', takes, now]
        cases e'.takes with
        | error f => exact ⟨rfl, congrArg (Script.mk s'.now) others⟩
        | ok time =>
          refine ⟨?_, congrArg (Script.mk (s'.now + time)) others⟩
          show (e.answer.reply (command :: args)).muted = (e'.answer.reply (command :: args)).muted
          rw [Answer.reply_muted, answers, Answer.reply_muted]

end Script

end Stepwise
