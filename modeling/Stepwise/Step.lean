import Stepwise.CommandLine
import Stepwise.Env
import Stepwise.Path
import Stepwise.Text.Blank

/-!
Steps and pipelines. A step is a command with what it needs to run: variables of its own and a
directory. Its command always has a name to start it by. A pipeline is a named, non-empty list of
steps with variables for all of them.
-/
namespace Stepwise

def Runnable (command : List String) : Prop :=
  Text.allBlank (command.headD "") = false

instance (command : List String) : Decidable (Runnable command) :=
  inferInstanceAs (Decidable (_ = _))

theorem Runnable.ne_nil {command : List String} (h : Runnable command) : command ≠ [] := by
  rintro rfl
  simp [Runnable, Text.allBlank] at h

theorem runnable_cons {arg : String} {rest : List String} (h : Text.allBlank arg = false) :
    Runnable (arg :: rest) := h

structure Step where
  command : List String
  description : String
  env : Env
  cwd : Option Directory
  runnable : Runnable command
  deriving DecidableEq

namespace Step

def executable (s : Step) : String := s.command.headD ""

def args (s : Step) : List String := s.command.tail

theorem executable_args (s : Step) : s.executable :: s.args = s.command := by
  have h := s.runnable.ne_nil
  unfold executable args
  cases hc : s.command with
  | nil => exact absurd hc h
  | cons a rest => rfl

def name (s : Step) : String :=
  if s.description = "" then CommandLine.join s.command else s.description

/-- The part of a step that its place in a hash table depends on: all but its variables. -/
def key (s : Step) : List String × String × Option Directory :=
  (s.command, s.description, s.cwd)

def same (s t : Step) : Bool :=
  s.key = t.key && s.env.same t.env

end Step

/-- A non-empty list of steps under one name, with variables for all of them. -/
structure Pipeline where
  name : String
  steps : List Step
  env : Env
  nonempty : steps ≠ []

namespace Pipeline

def size (p : Pipeline) : Nat := p.steps.length

def withEnv (p : Pipeline) (env : Env) : Pipeline := { p with env := env }

end Pipeline

end Stepwise
