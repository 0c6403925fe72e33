import Stepwise.Log.Template
import Stepwise.Main
import Stepwise.Script
import Stepwise.Proofs.Run.Course
import Stepwise.Proofs.Run.Trace
import Stepwise.Proofs.Context.Derivation
import Stepwise.Proofs.Run.Coherence
import Stepwise.Proofs.Run.Contexts
import Stepwise.Proofs.CommandLine.RoundTrip
import Stepwise.Proofs.Definition.Building
import Stepwise.Proofs.Definition.Commands
import Stepwise.Proofs.Cli.Rejection
import Stepwise.Proofs.Cli.Lines
import Stepwise.Proofs.Cli.ExitStatus
import Stepwise.Proofs.Yaml.Faults
import Stepwise.Proofs.State.History
import Stepwise.Proofs.Cli.Masking
import Stepwise.Proofs.Cli.Transcript
import Stepwise.Proofs.Cli.Listing
import Stepwise.Proofs.Cli.Variables
import Stepwise.Proofs.Run.Frame
import Stepwise.Proofs.Cli.Precedence
import Stepwise.Proofs.Cli.Effects
import Stepwise.Proofs.Child.Starting
import Stepwise.Proofs.Cli.Captured
import Stepwise.Proofs.Report.Fences
import Stepwise.Proofs.Context.Composition
import Stepwise.Proofs.Context.Equality
import Stepwise.Proofs.Definition.Locations
import Stepwise.Proofs.Cli.Agreement
import Stepwise.Proofs.Step.Admission
import Stepwise.Proofs.Log.Calls
import Stepwise.Proofs.Child.Output
import Stepwise.Proofs.Failure.Message
