import Stepwise.Child
import Stepwise.Proofs.Path.Usable
import Stepwise.Proofs.Run.Coherence

/-! Commands that cannot be started. A request that the system can be given is answered: by what
came of the process, or by the reason why there is none, which becomes a failure that is recorded
with its step. Only a request with a text in it that the system cannot be given stops a run, and it
does so instead of being answered. -/
namespace Stepwise

theorem nameFault?_eq_none_iff {name : String} :
    nameFault? name = none ↔ encodeFault? name = none ∧ nulFault? name = none :=
  Option.orElse_eq_none _ _

namespace Child

/-- A text that the system can be given: it has octets, or characters that stand for octets, and
nothing in it ends it early. -/
def Givable (text : String) : Prop :=
  ∀ c ∈ text.toList, (Text.isLone c && !Text.Utf8.isOctet c) = false ∧ c ≠ '\x00'

/-- A request that the system can be given. -/
structure Request.Proper (r : Request) : Prop where
  argv : ∀ arg ∈ r.argv, Givable arg
  names : ∀ v ∈ r.context.env.pairs, Givable v.1 ∧ '=' ∉ v.1.toList
  values : ∀ v ∈ r.context.env.pairs, Givable v.2
  cwd : Givable r.context.cwd.toString

theorem Request.variableFault?_eq_none {name value : String} :
    variableFault? name value = none ↔
      encodeFault? name = none ∧ '=' ∉ name.toList ∧ encodeFault? value = none := by
  unfold variableFault?
  rw [Option.orElse_eq_none, Option.orElse_eq_none]
  simp

theorem Request.fault?_eq_none {r : Request} : r.fault? = none ↔ r.Proper := by
  have given : ∀ text, Givable text ↔ encodeFault? text = none ∧ nulFault? text = none := by
    intro text
    rw [← nameFault?_eq_none_iff, nameFault?_eq_none]
    rfl
  have nul : ∀ v : String × String, (nulFault? v.1 <|> nulFault? v.2) = none ↔
      nulFault? v.1 = none ∧ nulFault? v.2 = none := fun v => Option.orElse_eq_none _ _
  unfold fault?
  simp only [Option.orElse_eq_none, List.findSome?_eq_none_iff, variableFault?_eq_none, nul,
    nameFault?_eq_none_iff]
  constructor
  · rintro ⟨env, args, nuls, cwd⟩
    constructor
    case argv => exact fun arg member => (given arg).mpr (args arg member)
    case names =>
      intro v member
      obtain ⟨name, equals, -⟩ := env v member
      exact ⟨(given v.1).mpr ⟨name, (nuls v member).1⟩, equals⟩
    case values =>
      intro v member
      obtain ⟨-, -, value⟩ := env v member
      exact (given v.2).mpr ⟨value, (nuls v member).2⟩
    case cwd => exact (given _).mpr cwd
  · rintro ⟨argv, names, values, cwd⟩
    refine ⟨?_, fun arg member => (given arg).mp (argv arg member), ?_, (given _).mp cwd⟩
    · intro v member
      obtain ⟨name, equals⟩ := names v member
      exact ⟨((given v.1).mp name).1, equals, ((given v.2).mp (values v member)).1⟩
    · intro v member
      exact ⟨((given v.1).mp (names v member).1).2, ((given v.2).mp (values v member)).2⟩

section Answering

variable {σ : Type} (host : Host σ) (capture : Bool)

/-- What an executor of child processes gives for a request, and the state that leaves. -/
inductive Answered (r : Request) (w : σ) : Reply Fault × σ → Prop where
  | ended {outcome : Outcome} {w' : σ} {ms : Int} (proper : r.Proper)
      (started : host.start r w = (.ok outcome, w')) (timed : host.elapsedMs w w' = .ok ms) :
      Answered r w (.completed (outcome.completion capture ms), w')
  | refused {refusal : Refusal} {w' : σ} (proper : r.Proper)
      (started : host.start r w = (.error refusal, w')) : Answered r w
        (.unstartable none r.argv (refusal.reason r (host.isDirectory r.context.cwd w')), w')
  | fault {f : Fault} (improper : r.fault? = some f) : Answered r w (.crashed f, w)

variable {host}

theorem execute_answered (clock : ∀ w w', ∃ ms, host.elapsedMs w w' = .ok ms) (command : String)
    (args : List String) (c : Context) (w : σ) : Answered host capture ⟨command, args, c⟩ w
      ((executor host capture).execute command args c w) := by
  simp only [executor]
  cases looked : Request.fault? ⟨command, args, c⟩ with
  | some f => exact .fault looked
  | none =>
    have proper := Request.fault?_eq_none.mp looked
    rcases started : host.start ⟨command, args, c⟩ w with ⟨refusal | outcome, w'⟩
    · simp only [started]
      exact .refused proper started
    · obtain ⟨ms, timed⟩ := clock w w'
      simp only [started, timed]
      exact .ended proper started timed

theorem Answered.fault_of_crashed {r : Request} {w w' : σ} {f : Fault}
    (h : Answered host capture r w (.crashed f, w')) : r.fault? = some f := by
  cases h with
  | fault improper => exact improper

end Answering

end Child

namespace Course

section Stopping

variable {σ ε : Type} {ex : Executor σ ε} {hooks : Hooks σ ε}

/-- The hooks let every step go on. -/
structure Lets (hooks : Hooks σ ε) : Prop where
  start : ∀ index s w, (hooks.start index s w).1 = none
  finish : ∀ r w, (hooks.finish r w).1 = none

/-- A run comes to the step at an index, which is to be executed in a state. -/
inductive Reached (ex : Executor σ ε) (hooks : Hooks σ ε) (context : Context) (steps : List Step)
    (w : σ) : Nat → Step → σ → Prop where
  | intro {done rest : List Step} {s : Step} {cs : List Completion} {rs : List StepResult}
      {w₁ before : σ} (split : steps = done ++ s :: rest)
      (passed : Passed ex hooks context 0 done w cs rs w₁)
      (started : Called hooks.onStart done.length s w₁ none before) :
      Reached ex hooks context steps w done.length s before

theorem Reached.mem {context : Context} {steps : List Step} {w before : σ} {i : Nat} {s : Step}
    (h : Reached ex hooks context steps w i s before) : s ∈ steps := by
  cases h with
  | intro split passed started => simp [split]

section Runs

variable {p : Pipeline} {base : Context} {w : σ}

theorem raised_of_crashed (runId : String) {i : Nat} {s : Step} {before after : σ} {e : ε}
    (reached : Reached ex hooks (p.baseContext base) p.steps w i s before)
    (crashed : ex.execute s.executable s.args ((p.baseContext base).forStep s) before =
      (.crashed e, after)) :
    (p.run ex hooks base runId w).outcome = .error (.raised e) := by
  cases reached with
  | intro split passed started =>
    rw [run_of_cut split passed (.crash started crashed)]
    rfl

/-- Where neither hooks nor the clock stop a run, it comes to a report or to a step at which the
executor breaks down. -/
theorem reported_or_crashed (ex : Executor σ ε) (lets : Lets hooks)
    (clock : ∀ w w', ∃ ms, ex.elapsedMs w w' = .ok ms) (runId : String) :
    (∃ r, (p.run ex hooks base runId w).outcome = .ok r) ∨
      ∃ i s before after e, Reached ex hooks (p.baseContext base) p.steps w i s before ∧
        ex.execute s.executable s.args ((p.baseContext base).forStep s) before =
          (.crashed e, after) := by
  rcases passed_or_cut ex hooks (p.baseContext base) 0 p.steps w with
    ⟨cs, rs, w', passed⟩ | ⟨done, s, rest, cs, rs, w₁, cut, w₂, split, passed, cut_by⟩
  · obtain ⟨ms, told⟩ := clock w w'
    rw [run_of_passed passed, told]
    exact .inl ⟨_, rfl⟩
  · rw [Nat.zero_add] at cut_by
    cases cut_by with
    | start stopped =>
      have going := lets.start done.length s w₁
      rw [called_onStart.mp stopped] at going
      cases going
    | @crash e before after started crashed =>
      exact .inr ⟨_, s, before, w₂, e, .intro split passed started, crashed⟩
    | clock started replied answered untimed =>
      obtain ⟨elapsed, told⟩ := clock _ _
      rw [told] at untimed
      cases untimed
    | @finish e after w' reply outcome r executed stopped =>
      have going := lets.finish r after
      rw [executed.called_finish.mp stopped] at going
      cases going
    | failure executed finished =>
      obtain ⟨ms, told⟩ := clock w w₂
      rw [run_of_cut split passed (.failure executed finished), told]
      exact .inl ⟨_, rfl⟩

end Runs

end Stopping

end Course

namespace Child

open Course

section Running

variable {σ : Type} {host : Host σ} {capture : Bool} {hooks : Hooks σ Fault} {p : Pipeline}
variable {base : Context} {runId : String} {w : σ}

def requestOf (context : Context) (s : Step) : Request :=
  ⟨s.executable, s.args, context.forStep s⟩

theorem argv_requestOf (context : Context) (s : Step) : (requestOf context s).argv = s.command :=
  s.executable_args

/-- A run ends at a step whose process was not started, and its report says so. -/
structure Unstarted (r : Report) (i : Nat) (s : Step) (reason : String) : Prop where
  failure : r.failure = some (.unstartable (some (i : Int)) s.command reason)
  stepsRun : r.stepsRun = i
  results : r.stepResults.length = i + 1
  last : ∃ e, r.stepResults[i]? = some e ∧ e.command = s.command ∧ e.exitCode = none ∧
    e.success = false ∧
    e.error = some (Failure.unstartable (some (i : Int)) s.command reason).message
  state : r.state.status = .failed ∧ r.state.currentStep = i ∧ r.state.terminated = true

/-- A run comes to the step at an index, and the system refuses to start its process. -/
inductive RefusedAt (host : Host σ) (capture : Bool) (hooks : Hooks σ Fault) (context : Context)
    (steps : List Step) (w : σ) (i : Nat) (s : Step) : String → Prop where
  | intro {before after : σ} {refusal : Refusal}
      (reached : Reached (executor host capture) hooks context steps w i s before)
      (proper : (requestOf context s).Proper)
      (refuses : host.start (requestOf context s) before = (.error refusal, after)) :
      RefusedAt host capture hooks context steps w i s
        (refusal.reason (requestOf context s) (host.isDirectory (context.forStep s).cwd after))

/-- A run comes to a step whose request has a fault. -/
inductive FaultAt (host : Host σ) (capture : Bool) (hooks : Hooks σ Fault) (context : Context)
    (steps : List Step) (w : σ) (f : Fault) : Prop where
  | intro {i : Nat} {s : Step} {before : σ}
      (reached : Reached (executor host capture) hooks context steps w i s before)
      (improper : (requestOf context s).fault? = some f) :
      FaultAt host capture hooks context steps w f

theorem execute_of_refuses (capture : Bool) {context : Context} {s : Step} {before after : σ}
    {refusal : Refusal} (proper : (requestOf context s).Proper)
    (refuses : host.start (requestOf context s) before = (.error refusal, after)) :
    (executor host capture).execute s.executable s.args (context.forStep s) before =
      (.unstartable none s.command (refusal.reason (requestOf context s)
        (host.isDirectory (context.forStep s).cwd after)), after) := by
  have fine := Request.fault?_eq_none.mpr proper
  rw [← argv_requestOf context s]
  unfold requestOf at fine refuses ⊢
  simp only [executor, fine, refuses]

theorem unstarted_of_refused (lets : Lets hooks)
    (clock : ∀ w w', ∃ ms, host.elapsedMs w w' = .ok ms) {i : Nat} {s : Step} {reason : String}
    (refused : RefusedAt host capture hooks (p.baseContext base) p.steps w i s reason) :
    ∃ r, (p.run (executor host capture) hooks base runId w).outcome = .ok r ∧
      Unstarted r i s reason := by
  cases refused with
  | @intro before after refusal reached proper refuses =>
    obtain @⟨done, rest, s, cs, rs, w₁, before, split, passed, started⟩ := reached
    have replied := execute_of_refuses capture proper refuses
    generalize refusal.reason _ _ = reason at replied ⊢
    obtain ⟨elapsed, timed⟩ := clock before after
    let cause : Failure := .unstartable (some (done.length : Int)) s.command reason
    let result : StepResult := .of done.length s (.failed cause none) elapsed
    have executed : Executed (executor host capture) hooks (p.baseContext base) done.length s w₁ _
        (.failed cause none) result after := .intro started replied timed (.unstarted rfl)
    obtain ⟨w₂, finished⟩ : ∃ w₂, Called hooks.onFinish done.length result after none w₂ :=
      ⟨_, executed.called_finish.mpr (Prod.ext (lets.finish _ _) rfl)⟩
    obtain ⟨ms, told⟩ : ∃ ms, (executor host capture).elapsedMs w w₂ = .ok ms := clock w w₂
    have count := passed.length_eq.2
    rw [run_of_cut split passed (.failure executed finished), told]
    refine ⟨_, rfl, ?_⟩
    constructor
    case failure => rfl
    case stepsRun => exact count
    case results => simp [failed, count]
    case last => exact ⟨result, by simp [failed, ← count], rfl, rfl, rfl, rfl⟩
    case state => exact ⟨rfl, count, rfl⟩

theorem crashed_iff (capture : Bool) {context : Context} {s : Step} {w : σ} {f : Fault}
    (clock : ∀ w w', ∃ ms, host.elapsedMs w w' = .ok ms) :
    (∃ w', (executor host capture).execute s.executable s.args (context.forStep s) w =
      (.crashed f, w')) ↔ (requestOf context s).fault? = some f := by
  constructor
  · rintro ⟨w', crashed⟩
    have answered := execute_answered capture clock s.executable s.args (context.forStep s) w
    rw [crashed] at answered
    exact answered.fault_of_crashed
  · intro improper
    unfold requestOf at improper
    exact ⟨w, by simp only [executor, improper]⟩

theorem raised_iff (lets : Lets hooks) (clock : ∀ w w', ∃ ms, host.elapsedMs w w' = .ok ms)
    (f : Fault) :
    (p.run (executor host capture) hooks base runId w).outcome = .error (.raised f) ↔
      FaultAt host capture hooks (p.baseContext base) p.steps w f := by
  constructor
  · intro raised
    rcases reported_or_crashed (executor host capture) lets clock runId with
      ⟨r, reported⟩ | ⟨i, s, before, after, e, reached, crashed⟩
    · rw [raised] at reported
      cases reported
    · have stopped := raised_of_crashed runId reached crashed
      rw [raised] at stopped
      cases stopped
      exact .intro reached ((crashed_iff capture clock).mp ⟨after, crashed⟩)
  · rintro ⟨reached, improper⟩
    obtain ⟨after, crashed⟩ := (crashed_iff capture clock).mpr improper
    exact raised_of_crashed runId reached crashed

/-- An executor of child processes answers every request that the system can be given, with what
came of the process or with the reason why it was not started, and names all of the command then. A
request that the system cannot be given has a text in it with a character that has no octets or that
ends texts, or an equal sign in the name of a variable; that fault is not kept in. So where neither
hooks nor the clock stop a run, it comes to a report unless it comes to a step with such a fault,
which stops it. The report agrees with the answers, and a step whose process the system refuses to
start is recorded at its index. -/
theorem run_starts (host : Host σ) (capture : Bool)
    (clock : ∀ w w', ∃ ms, host.elapsedMs w w' = .ok ms) :
    (∀ command args c w, Answered host capture ⟨command, args, c⟩ w
      ((executor host capture).execute command args c w)) ∧
    (∀ r : Request, r.fault? = none ↔ r.Proper) ∧
    ∀ (hooks : Hooks σ Fault), Lets hooks →
      ∀ (p : Pipeline) (base : Context) (runId : String) (w : σ),
      let run := p.run (executor host capture) hooks base runId w
      let context := p.baseContext base
      ((∃ r, run.outcome = .ok r) ∨ ∃ f, run.outcome = .error (.raised f)) ∧
      (∀ f, run.outcome = .error (.raised f) ↔
        FaultAt host capture hooks context p.steps w f) ∧
      ((∀ s ∈ p.steps, (requestOf context s).Proper) → ∃ r, run.outcome = .ok r) ∧
      (∀ r, run.outcome = .ok r → ∃ replies,
        Answers (executor host capture) hooks context 0 p.steps w replies ∧
          Coherent p runId replies r) ∧
      ∀ i s reason, RefusedAt host capture hooks context p.steps w i s reason →
        ∃ r, run.outcome = .ok r ∧ Unstarted r i s reason := by
  refine ⟨execute_answered capture clock, fun r => Request.fault?_eq_none, ?_⟩
  intro hooks lets p base runId w run context
  have ends : (∃ r, run.outcome = .ok r) ∨ ∃ f, run.outcome = .error (.raised f) := by
    rcases reported_or_crashed (executor host capture) lets clock runId with
      reported | ⟨i, s, before, after, f, reached, crashed⟩
    · exact .inl reported
    · exact .inr ⟨f, raised_of_crashed runId reached crashed⟩
  refine ⟨ends, fun f => raised_iff lets clock f, ?_, ?_, ?_⟩
  · intro proper
    rcases ends with reported | ⟨f, raised⟩
    · exact reported
    · obtain ⟨reached, improper⟩ := (raised_iff lets clock f).mp raised
      rw [Request.fault?_eq_none.mpr (proper _ reached.mem)] at improper
      cases improper
  · exact fun r reported => coherent_of_reported reported
  · exact fun i s reason refused => unstarted_of_refused lets clock refused

def lacking : Host Unit where
  start r w := if r.command = "gone" then (.error (.command .notFound), w) else (.ok ⟨0, [], []⟩, w)
  isDirectory _ _ := true
  elapsedMs _ _ := .ok 0

def ready : Step := ⟨["true"], "", ∅, none, by decide⟩

def readyThen (s : Step) : Pipeline where
  name := "two"
  steps := [ready, s]
  env := ∅
  nonempty := by simp

/-- A second command that is not there is recorded as the failure of its step. One that has a text
in it that the system cannot be given stops the run. -/
theorem run_starts_gone :
    let here : Context := ⟨.ofString "/src", ∅⟩
    let gone : Step := ⟨["gone", "away"], "", ∅, none, by decide⟩
    let marred : Step := ⟨["echo", "a\x00b"], "", ∅, none, by decide⟩
    (∀ w w', ∃ ms, lacking.elapsedMs w w' = .ok ms) ∧ Lets (Hooks.silent : Hooks Unit Fault) ∧
    (∃ r, ((readyThen gone).run (executor lacking false) .silent here "run" ()).outcome = .ok r ∧
      Unstarted r 1 gone "command not found") ∧
    ((readyThen marred).run (executor lacking false) .silent here "run" ()).outcome =
      .error (.raised (.value "embedded null byte")) := by
  intro here gone marred
  have clock : ∀ w w', ∃ ms, lacking.elapsedMs w w' = .ok ms := fun _ _ => ⟨0, rfl⟩
  have lets : Lets (Hooks.silent : Hooks Unit Fault) := ⟨fun _ _ _ => rfl, fun _ _ => rfl⟩
  have started : (executor lacking false).execute "true" [] here () =
      (.completed ⟨0, none, none, 0⟩, ()) := by
    have proper : Request.fault? ⟨"true", [], here⟩ = none := by decide
    simp only [executor, proper]
    rfl
  have passes : Passes (executor lacking false) .silent here 0 ready () ⟨0, none, none, 0⟩
      _ () := ⟨(), .intro (.absent rfl) started rfl (.passed rfl), .absent rfl⟩
  have reached (s : Step) :
      Reached (executor lacking false) .silent here (readyThen s).steps () 1 s () := by
    have split : (readyThen s).steps = [ready] ++ s :: [] := rfl
    exact .intro split (.cons passes (.nil 1 ())) (.absent rfl)
  refine ⟨clock, lets, ?_, ?_⟩
  · have starts := (run_starts lacking false clock).2.2 .silent lets (readyThen gone) here "run" ()
    have proper : (requestOf here gone).Proper := Request.fault?_eq_none.mp (by decide)
    exact starts.2.2.2.2 1 gone _ (.intro (reached gone) proper rfl)
  · have starts := (run_starts lacking false clock).2.2 .silent lets (readyThen marred) here "run" ()
    have improper : (requestOf here marred).fault? = some (.value "embedded null byte") := by decide
    exact (starts.2.1 _).mpr (.intro (reached marred) improper)

end Running

end Child

end Stepwise
