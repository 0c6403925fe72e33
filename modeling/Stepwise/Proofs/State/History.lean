import Mathlib.Data.List.Infix
import Stepwise.State

/-! The life of a state that is changed in place, whatever is asked of it and however often. A
request is granted if its status may follow and is refused before anything is written otherwise, so
there are five lives in all: the fresh state, the run that goes on, and its three ends. -/
namespace Stepwise

section Changes

variable {s : State} {status : Status}

theorem Change.get_eq (s : State) : (get : EStateM TransitionError State State) s = .ok s s := rfl

theorem Change.become_of_mem (h : status ∈ s.status.successors) :
    become status s = .ok () { s with status := status } := by
  have allowed : s.status.successors.contains status = true := List.contains_iff_mem.mpr h
  simp only [become, bind, EStateM.bind, get_eq, allowed]
  rfl

theorem Change.become_of_not_mem (h : status ∉ s.status.successors) :
    become status s = .error ⟨s.status, status⟩ s := by
  have barred : s.status.successors.contains status = false := by simpa using h
  simp only [become, bind, EStateM.bind, get_eq, barred]
  rfl

theorem Change.breakOff_eq (cause : Failure) :
    breakOff cause s = match become .failed s with
      | .ok _ t => .ok () { t with terminated := true, cause := some cause }
      | .error e t => .error e t := by
  simp only [breakOff, bind, EStateM.bind]
  cases become .failed s <;> rfl

end Changes

namespace Request

def status : Request → Status
  | transition status => status
  | fail _ => .failed

def cause? : Request → Option Failure
  | transition _ => none
  | fail cause => some cause

/-- What a run makes of its state where it does the same. -/
def apply (s : State) : Request → Except TransitionError State
  | transition status => s.transition status
  | fail cause => s.fail cause

/-- The state with everything written that a request asks for. -/
def written (s : State) : Request → State
  | transition status => { s with status := status }
  | fail cause => { s with status := .failed, terminated := true, cause := some cause }

variable {s : State} {q : Request}

theorem change_of_mem (h : q.status ∈ s.status.successors) : q.change s = .ok () (q.written s) := by
  cases q with
  | transition status => exact Change.become_of_mem h
  | fail cause =>
    have first : Change.become .failed s = .ok () { s with status := .failed } :=
      Change.become_of_mem h
    simp only [change, Change.breakOff_eq, first, written]

theorem change_of_not_mem (h : q.status ∉ s.status.successors) :
    q.change s = .error ⟨s.status, q.status⟩ s := by
  cases q with
  | transition status => exact Change.become_of_not_mem h
  | fail cause =>
    have first : Change.become .failed s = .error ⟨s.status, .failed⟩ s :=
      Change.become_of_not_mem h
    simp only [change, Change.breakOff_eq, first, status]

theorem apply_of_mem (h : q.status ∈ s.status.successors) : q.apply s = .ok (q.written s) := by
  cases q with
  | transition status => exact if_pos (List.contains_iff_mem.mpr h)
  | fail cause =>
    have first : s.transition .failed = .ok { s with status := .failed } :=
      if_pos (List.contains_iff_mem.mpr h)
    simp only [apply, State.fail, first]
    rfl

theorem apply_of_not_mem (h : q.status ∉ s.status.successors) :
    q.apply s = .error ⟨s.status, q.status⟩ := by
  have barred : ¬ s.status.successors.contains q.status = true := by simpa using h
  cases q with
  | transition status => exact if_neg barred
  | fail cause =>
    have first : s.transition .failed = .error ⟨s.status, .failed⟩ := if_neg barred
    simp only [apply, State.fail, first]
    rfl

end Request

/-- One request and what came of it. -/
structure Move where
  before : State
  request : Request
  refusal : Option TransitionError
  after : State

def Move.of (s : State) (q : Request) : Move :=
  match q.change s with
  | .ok _ t => ⟨s, q, none, t⟩
  | .error e t => ⟨s, q, some e, t⟩

namespace State

def history (s : State) : List Request → List Move
  | [] => []
  | q :: qs => .of s q :: history (Move.of s q).after qs

def leftBy (s : State) (requests : List Request) : State :=
  requests.foldl (fun s q => (Move.of s q).after) s

/-- The requests that were granted. -/
def granted (moves : List Move) : List Request :=
  (moves.filter (·.refusal.isNone)).map Move.request

theorem granted_cons (m : Move) (moves : List Move) :
    granted (m :: moves) = granted [m] ++ granted moves := by
  unfold granted
  rw [← List.map_append, ← List.filter_append]
  rfl

def Ended (s : State) : Prop := s.status = .succeeded ∨ s.status = .failed

/-- The requests that a fresh state grants, and the state that they leave. -/
inductive Lived : List Request → State → Prop where
  | fresh : Lived [] .initial
  | running : Lived [.transition .running] ⟨0, .running, false, none⟩
  | succeeded : Lived [.transition .running, .transition .succeeded] ⟨0, .succeeded, false, none⟩
  | failed : Lived [.transition .running, .transition .failed] ⟨0, .failed, false, none⟩
  | brokenOff (cause : Failure) :
      Lived [.transition .running, .fail cause] ⟨0, .failed, true, some cause⟩

section Steps

variable {s : State} {q : Request}

theorem move_of_mem (h : q.status ∈ s.status.successors) :
    Move.of s q = ⟨s, q, none, q.written s⟩ := by
  rw [Move.of, Request.change_of_mem h]

theorem move_of_not_mem (h : q.status ∉ s.status.successors) :
    Move.of s q = ⟨s, q, some ⟨s.status, q.status⟩, s⟩ := by
  rw [Move.of, Request.change_of_not_mem h]

theorem Ended.refuses (h : s.Ended) (q : Request) :
    Move.of s q = ⟨s, q, some ⟨s.status, q.status⟩, s⟩ := by
  apply move_of_not_mem
  have none : s.status.successors = [] := by
    rcases h with ended | ended
    · rw [ended]
      rfl
    · rw [ended]
      rfl
  rw [none]
  exact List.not_mem_nil

theorem Lived.grant {qs : List Request} (h : Lived qs s) (allowed : q.status ∈ s.status.successors) :
    Lived (qs ++ [q]) (q.written s) := by
  cases h with
  | fresh =>
    have wanted : q.status = .running := List.mem_singleton.mp allowed
    cases q with
    | transition status =>
      cases wanted
      exact .running
    | fail cause => cases wanted
  | running =>
    have wanted : q.status = .succeeded ∨ q.status = .failed := by
      simpa [Status.successors] using allowed
    cases q with
    | transition status =>
      rcases wanted with well | badly
      · cases well
        exact .succeeded
      · cases badly
        exact .failed
    | fail cause => exact .brokenOff cause
  | succeeded => cases allowed
  | failed => cases allowed
  | brokenOff cause => cases allowed

theorem Lived.goes_on {qs : List Request} (h : Lived qs s) (requests : List Request) :
    Lived (qs ++ granted (s.history requests)) (s.leftBy requests) := by
  -- A request is granted or changes nothing, so the life goes on from either state.
  induction requests generalizing qs s with
  | nil => simpa [history, granted, leftBy] using h
  | cons q rest ih =>
    rw [history, granted_cons, ← List.append_assoc]
    by_cases allowed : q.status ∈ s.status.successors
    · have later := ih (h.grant allowed)
      rw [leftBy, List.foldl_cons, move_of_mem allowed]
      exact later
    · have later := ih h
      rw [leftBy, List.foldl_cons, move_of_not_mem allowed]
      have none : granted [(⟨s, q, some ⟨s.status, q.status⟩, s⟩ : Move)] = [] := rfl
      rw [none, List.append_nil]
      exact later

section Facts

variable {qs : List Request} (h : Lived qs s)
include h

theorem Lived.path : qs.map Request.status <+: [.running, .succeeded] ∨
    qs.map Request.status <+: [.running, .failed] := by
  cases h <;> simp [Request.status]

theorem Lived.status_eq : s.status = (qs.map Request.status).getLastD .notStarted := by
  cases h <;> rfl

theorem Lived.few : qs.length ≤ 2 := by
  cases h <;> simp

theorem Lived.terminated_eq : s.terminated = s.cause.isSome := by
  cases h <;> rfl

theorem Lived.failed_of_terminated (terminated : s.terminated = true) : s.status = .failed := by
  cases h with
  | brokenOff cause => rfl
  | _ => cases terminated

theorem Lived.cause_eq : qs.filterMap Request.cause? = s.cause.toList := by
  cases h <;> rfl

theorem Lived.place_eq : s.currentStep = State.initial.currentStep := by
  cases h <;> rfl

end Facts

theorem Ended.stays (h : s.Ended) (requests : List Request) :
    ∀ m ∈ s.history requests, m.refusal.isSome ∧ m.after = s := by
  induction requests with
  | nil => exact fun m member => absurd member List.not_mem_nil
  | cons q rest ih =>
    have refused := h.refuses q
    intro m member
    rw [history, refused] at member
    rcases List.mem_cons.mp member with rfl | later
    · exact ⟨rfl, rfl⟩
    · exact ih m later

end Steps

/-- What holds of a state and of what came of the requests that led to it. The statuses that were
granted are a beginning of a run; `terminated` and the cause come together, with a failure that was
granted; a request that is refused names both statuses and leaves every field; and an end is final.
What is granted and refused is what a run does to its own state. -/
structure Lawful (moves : List Move) (s : State) : Prop where
  path : (granted moves).map Request.status <+: [.running, .succeeded] ∨
    (granted moves).map Request.status <+: [.running, .failed]
  status : s.status = ((granted moves).map Request.status).getLastD .notStarted
  few : (granted moves).length ≤ 2
  terminated : s.terminated = s.cause.isSome
  failed : s.terminated = true → s.status = .failed
  cause : (granted moves).filterMap Request.cause? = s.cause.toList
  place : s.currentStep = State.initial.currentStep
  refused : ∀ m ∈ moves, ∀ e, m.refusal = some e →
    m.after = m.before ∧ e = ⟨m.before.status, m.request.status⟩
  applied : ∀ m ∈ moves, m.request.apply m.before = match m.refusal with
    | none => .ok m.after
    | some e => .error e
  final : moves.Pairwise fun m n => m.after.Ended → n.refusal.isSome ∧ n.after = m.after

theorem refused_keeps (s : State) (requests : List Request) :
    ∀ m ∈ s.history requests, (∀ e, m.refusal = some e →
        m.after = m.before ∧ e = ⟨m.before.status, m.request.status⟩) ∧
      m.request.apply m.before = match m.refusal with
        | none => .ok m.after
        | some e => .error e := by
  induction requests generalizing s with
  | nil => exact fun m member => absurd member List.not_mem_nil
  | cons q rest ih =>
    intro m member
    rcases List.mem_cons.mp member with rfl | later
    · by_cases allowed : q.status ∈ s.status.successors
      · rw [move_of_mem allowed]
        exact ⟨nofun, Request.apply_of_mem allowed⟩
      · rw [move_of_not_mem allowed]
        refine ⟨?_, Request.apply_of_not_mem allowed⟩
        rintro e ⟨⟩
        exact ⟨rfl, rfl⟩
    · exact ih _ m later

theorem ends_final (s : State) (requests : List Request) :
    (s.history requests).Pairwise fun m n =>
      m.after.Ended → n.refusal.isSome ∧ n.after = m.after := by
  induction requests generalizing s with
  | nil => exact .nil
  | cons q rest ih => exact .cons (fun n later ended => ended.stays rest n later) (ih _)

theorem history_take (s : State) (requests : List Request) (n : Nat) :
    (s.history requests).take n = s.history (requests.take n) := by
  induction requests generalizing s n with
  | nil => simp [history]
  | cons q rest ih =>
    cases n with
    | zero => rfl
    | succ n => simp only [history, List.take_succ_cons, ih]

/-- Whatever is asked of a fresh state, it lives lawfully at every point. -/
theorem history_lawful (requests : List Request) (n : Nat) :
    Lawful ((State.initial.history requests).take n)
      (State.initial.leftBy (requests.take n)) := by
  rw [history_take]
  have lived := Lived.fresh.goes_on (requests.take n)
  rw [List.nil_append] at lived
  have kept := refused_keeps .initial (requests.take n)
  exact {
    path := lived.path
    status := lived.status_eq
    few := lived.few
    terminated := lived.terminated_eq
    failed := lived.failed_of_terminated
    cause := lived.cause_eq
    place := lived.place_eq
    refused := fun m member => (kept m member).1
    applied := fun m member => (kept m member).2
    final := ends_final .initial (requests.take n) }

end State

end Stepwise
