import Stepwise.Context
import Stepwise.Log
import Stepwise.State

/-!
Running a pipeline. The steps run in order until one fails, and everything that can be seen of a run
is in its trace: log records, calls of the hooks and what the executor makes known. The executor,
its clock and the hooks may stop a run with an error of their own; then there is no report.
Otherwise the report tells what each executed step gave and how the run ended.
-/
namespace Stepwise

/-- What a command that ran gives. Output is there if it was captured. -/
structure Completion where
  exitCode : Int
  stdout : Option String
  stderr : Option String
  durationMs : Int
  deriving DecidableEq, Repr

inductive Reply (ε : Type) where
  | completed (completion : Completion)
  /-- The command could not be started; the failure may name a step of its own. -/
  | unstartable (index : Option Int) (command : List String) (reason : String)
  | crashed (error : ε)

structure StepResult where
  index : Nat
  name : String
  command : List String
  exitCode : Option Int
  stdout : Option String
  stderr : Option String
  durationMs : Int
  success : Bool
  error : Option String
  deriving DecidableEq, Repr

inductive Event where
  | log (record : LogRecord)
  | start (index : Nat) (name : String)
  | exec (command : String) (args : List String) (context : Context)
  | finish (index : Nat) (success : Bool)
  deriving DecidableEq

/-- Something that runs commands, with a state `σ` in which its clock stands too. -/
structure Executor (σ ε : Type) where
  execute : String → List String → Context → σ → Reply ε × σ
  /-- What it logs of a command before it runs it. -/
  announce : String → List String → Context → List LogRecord
  /-- The milliseconds between two of its states, if its clock can tell. -/
  elapsedMs : σ → σ → Except ε Int

def Executor.callEvents {σ ε : Type} (ex : Executor σ ε) (s : Step) (context : Context) :
    List Event :=
  .exec s.executable s.args context ::
    (ex.announce s.executable s.args context).map Event.log

/-- What is called before and after each step, if anything is. Each sees the state of the executor
and may change it, and each may stop the run. -/
structure Hooks (σ ε : Type) where
  onStart : Option (Nat → Step → σ → Option ε × σ)
  onFinish : Option (Nat → StepResult → σ → Option ε × σ)

namespace Hooks

variable {σ ε : Type}

def silent : Hooks σ ε := ⟨none, none⟩

def startEvents (h : Hooks σ ε) (index : Nat) (s : Step) : List Event :=
  if h.onStart.isSome then [.start index s.name] else []

def start (h : Hooks σ ε) (index : Nat) (s : Step) (w : σ) : Option ε × σ :=
  match h.onStart with
  | some f => f index s w
  | none => (none, w)

def finishEvents (h : Hooks σ ε) (index : Nat) (success : Bool) : List Event :=
  if h.onFinish.isSome then [.finish index success] else []

def finish (h : Hooks σ ε) (r : StepResult) (w : σ) : Option ε × σ :=
  match h.onFinish with
  | some f => f r.index r w
  | none => (none, w)

end Hooks

def stepRecord (index total : Nat) (s : Step) : LogRecord :=
  ⟨Log.runner, .debug,
    "Step " ++ toString (index + 1) ++ "/" ++ toString total ++ ": " ++ s.name⟩

def failureRecord (cause : Failure) : LogRecord :=
  ⟨Log.runner, .warning, cause.message⟩

inductive StepOutcome where
  | passed (completion : Completion)
  | failed (cause : Failure) (completion : Option Completion)
  deriving DecidableEq, Repr

namespace StepOutcome

def completion? : StepOutcome → Option Completion
  | passed c => some c
  | failed _ c => c

def cause? : StepOutcome → Option Failure
  | passed _ => none
  | failed cause _ => some cause

end StepOutcome

def Reply.outcome {ε : Type} (index : Nat) (command : List String) :
    Reply ε → Except ε StepOutcome
  | completed c =>
    .ok (if c.exitCode = 0 then .passed c
      else .failed (.exited index command c.exitCode) (some c))
  | unstartable own command reason =>
    .ok (.failed ((Failure.unstartable own command reason).atIndex index) none)
  | crashed e => .error e

theorem Reply.outcome_eq_passed {ε : Type} {index : Nat} {command : List String} {reply : Reply ε}
    {c : Completion} (h : reply.outcome index command = .ok (.passed c)) :
    reply = .completed c ∧ c.exitCode = 0 := by
  cases reply with
  | completed d =>
    simp only [outcome, Except.ok.injEq] at h
    split at h <;> simp_all
  | unstartable own command reason => simp [outcome] at h
  | crashed e => cases h

/-- A step fails because its command ended with another code than zero or because it was not
started; the failure names the step, whatever index the executor gave. -/
theorem Reply.outcome_eq_failed {ε : Type} {index : Nat} {command : List String} {reply : Reply ε}
    {cause : Failure} {c : Option Completion}
    (h : reply.outcome index command = .ok (.failed cause c)) :
    (∃ d, reply = .completed d ∧ d.exitCode ≠ 0 ∧ cause = .exited index command d.exitCode ∧
      c = some d) ∨
    ∃ own command reason, reply = .unstartable own command reason ∧
      cause = .unstartable (some (index : Int)) command reason ∧ c = none := by
  cases reply with
  | completed d =>
    simp only [outcome, Except.ok.injEq] at h
    split at h <;> simp_all
  | unstartable own command reason =>
    simp only [outcome, Except.ok.injEq, StepOutcome.failed.injEq] at h
    exact .inr ⟨own, command, reason, rfl, h.1.symm, h.2.symm⟩
  | crashed e => cases h

def StepResult.of (index : Nat) (s : Step) (outcome : StepOutcome) (elapsedMs : Int) :
    StepResult where
  index := index
  name := s.name
  command := s.command
  exitCode := outcome.completion?.map Completion.exitCode
  stdout := outcome.completion?.bind Completion.stdout
  stderr := outcome.completion?.bind Completion.stderr
  durationMs := match outcome.completion? with
    | some c => if c.durationMs = 0 then elapsedMs else c.durationMs
    | none => elapsedMs
  success := outcome.cause?.isNone
  error := outcome.cause?.map Failure.message

inductive Ending (ε : Type) where
  | stopped (error : ε)
  | failed (result : StepResult) (cause : Failure)
  | passed (result : StepResult)

structure Turn (σ ε : Type) where
  trace : List Event
  ending : Ending ε
  state : σ

def Turn.after {σ ε : Type} (events : List Event) (t : Turn σ ε) : Turn σ ε :=
  { t with trace := events ++ t.trace }

section

variable {σ ε : Type}

def closeTurn (hooks : Hooks σ ε) (r : StepResult) (cause : Option Failure) (w : σ) : Turn σ ε :=
  .after (hooks.finishEvents r.index r.success) <|
  match hooks.finish r w, cause with
  | (some e, w), _ => ⟨[], .stopped e, w⟩
  | (none, w), some cause => ⟨[.log (failureRecord cause)], .failed r cause, w⟩
  | (none, w), none => ⟨[], .passed r, w⟩

def runStep (ex : Executor σ ε) (hooks : Hooks σ ε) (context : Context) (total index : Nat)
    (s : Step) (w : σ) : Turn σ ε :=
  .after (.log (stepRecord index total s) :: hooks.startEvents index s) <|
  match hooks.start index s w with
  | (some e, w) => ⟨[], .stopped e, w⟩
  | (none, before) =>
    let inner := context.forStep s
    let (reply, after) := ex.execute s.executable s.args inner before
    .after (ex.callEvents s inner) <|
    match reply.outcome index s.command, ex.elapsedMs before after with
    | .error e, _ => ⟨[], .stopped e, after⟩
    | .ok _, .error e => ⟨[], .stopped e, after⟩
    | .ok outcome, .ok elapsed =>
      closeTurn hooks (.of index s outcome elapsed) outcome.cause? after

end

structure Report where
  pipelineName : String
  runId : String
  success : Bool
  stepsRun : Nat
  stepResults : List StepResult
  failure : Option Failure
  durationMs : Int
  state : State
  deriving DecidableEq, Repr

namespace Report

def fallbackExitCode : Int := 1

/-- The code with which a process ends for a failure: the step's own code if that is one of a
process, 128 and the number of the signal that killed it, or one. -/
def failureExitCode : Option Failure → Int
  | some (.exited _ _ code) =>
    if 0 < code ∧ code < 256 then code
    else if -128 < code ∧ code < 0 then 128 - code
    else fallbackExitCode
  | _ => fallbackExitCode

def exitCodeOf (success : Bool) (failure : Option Failure) : Int :=
  if success then 0 else failureExitCode failure

def exitCode (r : Report) : Int := exitCodeOf r.success r.failure

def failedIndex (r : Report) : Option Int := r.failure.bind Failure.index

def raiseForFailure (r : Report) : Except Failure Unit :=
  match r.failure with
  | some cause => .error cause
  | none => .ok ()

def initial (name runId : String) : Report where
  pipelineName := name
  runId := runId
  success := true
  stepsRun := 0
  stepResults := []
  failure := none
  durationMs := 0
  state := .initial

def reach (r : Report) (index : Nat) : Report :=
  { r with state := { r.state with currentStep := index } }

def add (r : Report) (result : StepResult) : Report :=
  { r with stepResults := r.stepResults ++ [result] }

def count (r : Report) : Report := { r with stepsRun := r.stepsRun + 1 }

def transition (r : Report) (status : Status) : Except TransitionError Report :=
  (fun s => { r with state := s }) <$> r.state.transition status

def fail (r : Report) (cause : Failure) : Except TransitionError Report :=
  (fun s => { r with state := s, failure := some cause, success := false }) <$> r.state.fail cause

end Report

inductive Stop (ε : Type) where
  | raised (error : ε)
  | refused (error : TransitionError)

structure Run (σ ε : Type) where
  trace : List Event
  outcome : Except (Stop ε) Report
  state : σ

namespace Run

variable {σ ε : Type}

def after (events : List Event) (run : Run σ ε) : Run σ ε :=
  { run with trace := events ++ run.trace }

/-- A run with nothing more to see that comes to a report, unless a change is refused. -/
def closing (report : Except TransitionError Report) (w : σ) : Run σ ε :=
  ⟨[], report.mapError .refused, w⟩

@[simp] theorem closing_ok (report : Report) (w : σ) :
    closing (.ok report) w = (⟨[], .ok report, w⟩ : Run σ ε) := rfl

def timed (run : Run σ ε) (elapsed : Except ε Int) : Run σ ε :=
  { run with outcome := do
      let report ← run.outcome
      let durationMs ← elapsed.mapError .raised
      return { report with durationMs := durationMs } }

end Run

section

variable {σ ε : Type}

def runSteps (ex : Executor σ ε) (hooks : Hooks σ ε) (context : Context) (total : Nat) :
    Nat → List Step → Report → σ → Run σ ε
  | _, [], report, w => .closing (report.transition .succeeded) w
  | index, s :: rest, report, w =>
    let turn := runStep ex hooks context total index s w
    .after turn.trace <|
    match turn.ending with
    | .stopped e => ⟨[], .error (.raised e), turn.state⟩
    | .failed r cause => .closing (((report.reach index).add r).fail cause) turn.state
    | .passed r =>
      runSteps ex hooks context total (index + 1) rest ((report.reach index).add r).count turn.state

end

namespace Pipeline

variable {σ ε : Type}

def baseContext (p : Pipeline) (context : Context) : Context :=
  if p.env.isEmpty then context else context.override p.env none

def run (p : Pipeline) (ex : Executor σ ε) (hooks : Hooks σ ε) (context : Context) (runId : String)
    (w : σ) : Run σ ε :=
  match (Report.initial p.name runId).transition .running with
  | .error e => .closing (.error e) w
  | .ok report =>
    let run := runSteps ex hooks (p.baseContext context) p.size 0 p.steps report w
    run.timed (ex.elapsedMs w run.state)

end Pipeline

end Stepwise
