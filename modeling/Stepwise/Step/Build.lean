import Stepwise.ConfigurationError
import Stepwise.Value

/-!
Building steps and pipelines from what callers give. A step is built from a command line, from a
list of arguments, or from any value that turns out to be one; a pipeline from any values that turn
out to be steps.
-/
namespace Stepwise

def Value.texts (index : Nat) : List Value → Except ConfigurationError (List String)
  | [] => .ok []
  | .text s :: vs => (s :: ·) <$> texts (index + 1) vs
  | v :: _ => .error (.argumentIsNoText index v.kind)

def Value.command (v : Value) : Except ConfigurationError (List String) :=
  match v with
  | .text s => .error (.commandIsText s)
  | v =>
    if v.isNothing then .ok []
    else match v.elements? with
      | none => .error (.commandIsNoSequence v.kind)
      | some items => Value.texts 0 items

namespace Step

def ofCommand (command : List String) (description : String) (env : Env) (cwd : Option Directory) :
    Except ConfigurationError Step :=
  if h : Runnable command then .ok ⟨command, description, env, cwd, h⟩
  else .error .commandMissing

def ofValue (command : Value) (description : String) (env : Env) (cwd : Option Directory) :
    Except ConfigurationError Step := do
  ofCommand (← command.command) description env cwd

def ofLine (line description : String) (env : Env) (cwd : Option Directory) :
    Except ConfigurationError Step :=
  match CommandLine.split line with
  | .error e => .error (.lineUnreadable line e)
  | .ok command => ofCommand command description env cwd

end Step

def Value.steps (index : Nat) : List Value → Except ConfigurationError (List Step)
  | [] => .ok []
  | .step s :: vs => (s :: ·) <$> steps (index + 1) vs
  | v :: _ => .error (.notAStep index v.kind)

namespace Pipeline

def defaultName : String := "pipeline"

def ofSteps (steps : List Step) (name : String) (env : Env) :
    Except ConfigurationError Pipeline :=
  if h : steps = [] then .error .noSteps else .ok ⟨name, steps, env, h⟩

def ofValues (items : List Value) (name : String) (env : Env) :
    Except ConfigurationError Pipeline := do
  ofSteps (← Value.steps 0 items) name env

end Pipeline

end Stepwise
