import Stepwise.Preset

/-!
Definitions of pipelines, as files give them. A step has a command and may have another one for
verifying only; whatever the mode, the command it gives is one that can be run. `toPipeline` chooses
the commands and layers the variables, and builds the steps and the pipeline through the checks that
are made of any others.
-/
namespace Stepwise

structure StepDefinition where
  run : List String
  check : Option (List String)
  description : String
  env : Env
  cwd : Option String
  run_runnable : Runnable run
  check_runnable : ∀ command, check = some command → Runnable command

namespace StepDefinition

def command (s : StepDefinition) : FormatMode → List String
  | .check =>
    match s.check with
    | some command => if command.isEmpty then s.run else command
    | none => s.run
  | .fix => s.run

def toStep (s : StepDefinition) (mode : FormatMode) : Except ConfigurationError Step :=
  Step.ofValue (.tuple ((s.command mode).map .text)) s.description s.env
    (s.cwd.map .text)

end StepDefinition

def isSlugChar (c : Char) : Bool :=
  ('a' ≤ c && c ≤ 'z') || c.isDigit

/-- A name of two or more small letters, digits and hyphens that neither begins nor ends with a
hyphen. -/
def isSlug (name : String) : Bool :=
  match name.toList with
  | [] | [_] => false
  | first :: rest =>
    isSlugChar first && rest.all (fun c => isSlugChar c || c = '-') &&
      rest.getLast?.any isSlugChar

structure Metadata where
  name : String
  description : String
  name_slug : isSlug name

structure StepsDefinition where
  steps : List StepDefinition
  formatMode : FormatMode
  env : Env
  nonempty : steps ≠ []

structure Definition where
  metadata : Metadata
  spec : StepsDefinition

namespace Definition

def apiVersion : String := "buildpipe/v1"

def kind : String := "Pipeline"

/-- The pipeline of a definition, in its own mode unless another one is given, with its variables
overridden by those that are given. -/
def toPipeline (d : Definition) (mode : Option FormatMode) (env : Env) :
    Except ConfigurationError Pipeline := do
  let steps ← d.spec.steps.mapM fun s => s.toStep (mode.getD d.spec.formatMode)
  Pipeline.ofValues (steps.map .step) d.metadata.name (d.spec.env.update env)

end Definition

end Stepwise
