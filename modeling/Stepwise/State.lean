import Stepwise.Failure

/-!
The state of a run. A run is started once and ends once, well or with a failure; nothing changes
after that. `transition` and `fail` give back an error or a new state. A holder of a state has it
changed in place, field by field, as a `Request` asks; that a request which is refused has written
nothing is then to be shown.
-/
namespace Stepwise

inductive Status where
  | notStarted
  | running
  | succeeded
  | failed
  deriving DecidableEq, Repr

namespace Status

def text : Status → String
  | notStarted => "not_started"
  | running => "running"
  | succeeded => "succeeded"
  | failed => "failed"

def ofText? (word : String) : Option Status :=
  [notStarted, running, succeeded, failed].find? fun s => s.text = word

def successors : Status → List Status
  | notStarted => [running]
  | running => [succeeded, failed]
  | succeeded | failed => []

end Status

structure TransitionError where
  current : Status
  wanted : Status
  deriving DecidableEq, Repr

def TransitionError.message (e : TransitionError) : String :=
  "Invalid pipeline transition: " ++ e.current.text ++ " -> " ++ e.wanted.text

structure State where
  currentStep : Nat
  status : Status
  terminated : Bool
  cause : Option Failure
  deriving DecidableEq, Repr

namespace State

def initial : State := ⟨0, .notStarted, false, none⟩

def transition (s : State) (status : Status) : Except TransitionError State :=
  if s.status.successors.contains status then .ok { s with status := status }
  else .error ⟨s.status, status⟩

def fail (s : State) (cause : Failure) : Except TransitionError State :=
  (fun t => { t with terminated := true, cause := some cause }) <$> s.transition .failed

end State

/-- A change that is made to a state in place. What was written before it is refused stays. -/
abbrev Change := EStateM TransitionError State Unit

namespace Change

def become (status : Status) : Change := do
  let s ← get
  if !s.status.successors.contains status then throw ⟨s.status, status⟩
  modify fun s => { s with status := status }

def breakOff (cause : Failure) : Change := do
  become .failed
  modify fun s => { s with terminated := true }
  modify fun s => { s with cause := some cause }

end Change

inductive Request where
  | transition (status : Status)
  | fail (cause : Failure)
  deriving DecidableEq, Repr

namespace Request

def change : Request → Change
  | transition status => .become status
  | fail cause => .breakOff cause

end Request

end Stepwise
