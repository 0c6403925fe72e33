import Stepwise.CommandLine
import Stepwise.Path
import Stepwise.Text.Quoted

/-!
What can be wrong with a step, a pipeline or the choice of one before anything runs.
-/
namespace Stepwise

inductive ConfigurationError where
  | commandIsText (text : String)
  | commandIsNoSequence (kind : String)
  | commandMissing
  | argumentIsNoText (index : Nat) (kind : String)
  | lineUnreadable (line : String) (error : CommandLine.SplitError)
  | noSteps
  | notAStep (index : Nat) (kind : String)
  | unknownPreset (name : String) (known : List String)
  | envFileMissing (path : Path)
  deriving DecidableEq, Repr

def ConfigurationError.message : ConfigurationError → String
  | commandIsText text =>
    "Step command must be a sequence of arguments, got string " ++ Text.quoted text ++
      "; use Step.of() to parse a command line"
  | commandIsNoSequence kind => "Step command must be a sequence of arguments, got " ++ kind
  | commandMissing => "Step is missing a command"
  | argumentIsNoText index kind =>
    "Step command argument " ++ toString index ++ " must be a string, got " ++ kind
  | lineUnreadable line error =>
    "Invalid command line " ++ Text.quoted line ++ ": " ++ error.message
  | noSteps => "Pipeline must contain at least one step"
  | notAStep index kind =>
    "Pipeline step " ++ toString index ++ " must be a Step, got " ++ kind
  | unknownPreset name known =>
    "Unknown preset '" ++ name ++ "'. Available: " ++ ", ".intercalate known
  | envFileMissing path => "Env file not found: " ++ path.toString

end Stepwise
