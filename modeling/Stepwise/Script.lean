import Stepwise.Decimal.Whole
import Stepwise.Fault
import Stepwise.Run

/-!
An executor that answers from a script instead of running anything. Each entry first lets the clock
go on and then gives one answer; after the last entry every command ends well at once. The clock
counts seconds in floating point, and milliseconds are what is left of a difference when its
fraction is dropped. A difference that has no end cannot be told.
-/
namespace Stepwise

inductive Script.Answer where
  | completed (completion : Completion)
  | unstartable (index : Option Int) (reason : String)
  | crash (fault : Fault)

/-- An answer and the seconds it takes, which may be no number that the clock can be set by. -/
structure Script.Entry where
  takes : Except Fault Float
  answer : Script.Answer

structure Script where
  now : Float
  entries : List Script.Entry

namespace Script

def millis (start now : Float) : Except Fault Int :=
  Decimal.wholePart ((now - start) * 1000)

def answer (command : String) (args : List String) (s : Script) : Reply Fault × Script :=
  match s.entries with
  | [] => (.completed ⟨0, none, none, 0⟩, s)
  | entry :: rest =>
    match entry.takes with
    | .error f => (.crashed f, ⟨s.now, rest⟩)
    | .ok takes =>
      (match entry.answer with
        | .completed c => .completed c
        | .unstartable index reason => .unstartable index (command :: args) reason
        | .crash f => .crashed f,
        ⟨s.now + takes, rest⟩)

def executor : Executor Script Fault where
  execute command args _ s := s.answer command args
  announce _ _ _ := []
  elapsedMs before after := millis before.now after.now

end Script

end Stepwise
