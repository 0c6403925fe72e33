import Stepwise.Proofs.Run.Trace

/-! What a run leaves alone. Between two commands nothing is done to the state as long as the hooks
only look at it, so the state after a run is what the commands in its trace make of the one before.
Whatever no command changes is as it was. -/
namespace Stepwise

variable {σ ε : Type}

/-- The hooks look at the state and leave it as it is. -/
structure Hooks.Look (hooks : Hooks σ ε) : Prop where
  start : ∀ index s w, (hooks.start index s w).2 = w
  finish : ∀ r w, (hooks.finish r w).2 = w

namespace Course

variable (ex : Executor σ ε) {hooks : Hooks σ ε} {context : Context}

def stateAfter (handed : List Call) (w : σ) : σ :=
  handed.foldl (fun w call => (ex.execute call.1 call.2.1 call.2.2 w).2) w

theorem stateAfter_append (before later : List Call) (w : σ) :
    stateAfter ex (before ++ later) w = stateAfter ex later (stateAfter ex before w) :=
  List.foldl_append

theorem view_stateAfter {α : Type} {view : σ → α}
    (kept : ∀ command args c w, view (ex.execute command args c w).2 = view w) (handed : List Call)
    (w : σ) : view (stateAfter ex handed w) = view w := by
  induction handed generalizing w with
  | nil => rfl
  | cons call rest ih => exact (ih _).trans (kept ..)

variable {ex}

theorem closeTurn_frame (look : hooks.Look) (r : StepResult) (cause : Option Failure) (w : σ) :
    (closeTurn hooks r cause w).state = w ∧ calls (closeTurn hooks r cause w).trace = [] := by
  have left := look.finish r w
  unfold closeTurn
  simp only [Turn.after]
  rw [calls_append, calls_finishEvents]
  rcases finished : hooks.finish r w with ⟨_ | e, after⟩
  · obtain rfl : after = w := by rwa [finished] at left
    cases cause with
    | none => exact ⟨rfl, rfl⟩
    | some cause => exact ⟨rfl, rfl⟩
  · obtain rfl : after = w := by rwa [finished] at left
    exact ⟨rfl, rfl⟩

theorem runStep_frame (look : hooks.Look) (total index : Nat) (s : Step) (w : σ) :
    (runStep ex hooks context total index s w).state =
      stateAfter ex (calls (runStep ex hooks context total index s w).trace) w := by
  have left := look.start index s w
  have opened (rest : List Event) :
      calls (.log (stepRecord index total s) :: hooks.startEvents index s ++ rest) = calls rest := by
    have quiet : calls (.log (stepRecord index total s) :: hooks.startEvents index s) = [] :=
      calls_opening hooks total index s
    rw [calls_append, quiet, List.nil_append]
  unfold runStep
  rcases started : hooks.start index s w with ⟨_ | e, before⟩
  · obtain rfl : before = w := by rwa [started] at left
    rcases replied : ex.execute s.executable s.args (context.forStep s) before with ⟨reply, after⟩
    have handed : calls (ex.callEvents s (context.forStep s)) = [callOf context s] :=
      calls_handover ex context s
    have executed : stateAfter ex [callOf context s] before = after := congrArg Prod.snd replied
    simp only [Turn.after, replied]
    rw [opened, calls_append, handed, stateAfter_append, executed]
    cases reply.outcome index s.command with
    | error e => rfl
    | ok outcome =>
      cases ex.elapsedMs before after with
      | error e => rfl
      | ok elapsed =>
        obtain ⟨state, quiet⟩ :=
          closeTurn_frame look (.of index s outcome elapsed) outcome.cause? after
        simp only [state, quiet]
        rfl
  · obtain rfl : before = w := by rwa [started] at left
    simp only [Turn.after]
    rw [opened]
    rfl

theorem runSteps_frame (look : hooks.Look) (total index : Nat) (steps : List Step)
    (report : Report) (w : σ) :
    (runSteps ex hooks context total index steps report w).state =
      stateAfter ex (calls (runSteps ex hooks context total index steps report w).trace) w := by
  induction steps generalizing index report w with
  | nil => rfl
  | cons s rest ih =>
    simp only [runSteps, Run.after]
    rw [calls_append, stateAfter_append, ← runStep_frame look]
    cases (runStep ex hooks context total index s w).ending with
    | stopped e => rfl
    | failed r cause => rfl
    | passed r => exact ih _ _ _

theorem run_frame (ex : Executor σ ε) (look : hooks.Look) (p : Pipeline) (base : Context)
    (runId : String) (w : σ) :
    (p.run ex hooks base runId w).state =
      stateAfter ex (calls (p.run ex hooks base runId w).trace) w :=
  runSteps_frame look _ _ _ _ _

end Course

end Stepwise
