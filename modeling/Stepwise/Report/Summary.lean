import Stepwise.Output
import Stepwise.Run

/-!
The summary of a run: what its report says about the pipeline that was run, laid out for a reader.
The steps that were run come first and those that were not follow, so that together they are the
steps of the pipeline.
-/
namespace Stepwise

structure SummaryRow where
  index : Int
  name : String
  command : String
  exitCode : Option Int
  durationMs : Int
  success : Bool
  deriving DecidableEq, Repr

structure Summary where
  pipelineName : String
  runId : String
  success : Bool
  stepsRun : Int
  totalSteps : Int
  durationMs : Int
  exitCode : Int
  timestamp : String
  error : Option String
  failureOutput : Option String
  steps : List SummaryRow
  notRun : List String
  deriving DecidableEq, Repr

namespace StepResult

def row (r : StepResult) : SummaryRow :=
  ⟨r.index, r.name, CommandLine.join r.command, r.exitCode, r.durationMs, r.success⟩

def hasText (output : Option String) : Bool :=
  output.any (· ≠ "")

def failureOutput? (r : StepResult) : Option String :=
  if !r.success && (hasText r.stdout || hasText r.stderr) then
    some (Output.format r.stdout r.stderr none)
  else none

end StepResult

def Report.summary (r : Report) (p : Pipeline) (timestamp : String) : Summary where
  pipelineName := r.pipelineName
  runId := r.runId
  success := r.success
  stepsRun := r.stepsRun
  totalSteps := p.size
  durationMs := r.durationMs
  exitCode := r.exitCode
  timestamp := timestamp
  error := r.failure.map Failure.message
  failureOutput := (r.stepResults.filterMap StepResult.failureOutput?).getLast?
  steps := r.stepResults.map StepResult.row
  notRun := (p.steps.drop r.stepResults.length).map Step.name

end Stepwise
