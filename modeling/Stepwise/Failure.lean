import Stepwise.CommandLine

/-!
Why a run fails: a command ended with another code than zero, or it could not be started at all.
The second kind may be raised before it is known at which step; `atIndex` names the step.
-/
namespace Stepwise

inductive Failure where
  | exited (index : Int) (command : List String) (exitCode : Int)
  | unstartable (index : Option Int) (command : List String) (reason : String)
  deriving DecidableEq, Repr

namespace Failure

def index : Failure → Option Int
  | exited index _ _ => some index
  | unstartable index _ _ => index

def command : Failure → List String
  | exited _ command _ | unstartable _ command _ => command

def atIndex (i : Int) : Failure → Failure
  | exited _ command exitCode => exited i command exitCode
  | unstartable _ command reason => unstartable (some i) command reason

def message : Failure → String
  | exited index command exitCode =>
    "Step " ++ toString index ++ " failed with exit code " ++ toString exitCode ++ ": " ++
      CommandLine.join command
  | unstartable index command reason =>
    (match index with
      | some i => "Step " ++ toString i
      | none => "Command") ++
      " could not be executed (" ++ reason ++ "): " ++ CommandLine.join command

end Failure

end Stepwise
