import Stepwise.Cli.Args
import Stepwise.Definition.Load
import Stepwise.EnvFile
import Stepwise.Preset

/-!
The pipeline that the settings of `run` ask for: that of a file, that of a preset, or that of the
definition at hand, with the variables of a file over its own. There may be none to be had, for a
reason that can be told.
-/
namespace Stepwise.Cli

structure RunSettings where
  file : Option String
  preset : Option String
  check : Bool
  fix : Bool
  envFile : Option String
  capture : Bool
  dryRun : Bool
  report : Option String
  help : Bool

namespace RunSettings

def default : RunSettings := ⟨none, none, false, false, none, false, false, none, false⟩

def options : List (OptionSpec RunSettings) :=
  [⟨"--file", some 'f', .valued fun v s => { s with file := some v }⟩,
    ⟨"--preset", none, .valued fun v s => { s with preset := some v }⟩,
    ⟨"--check", none, .flag fun s => { s with check := true }⟩,
    ⟨"--fix", none, .flag fun s => { s with fix := true }⟩,
    ⟨"--env-file", none, .valued fun v s => { s with envFile := some v }⟩,
    ⟨"--capture", none, .flag fun s => { s with capture := true }⟩,
    ⟨"--dry-run", none, .flag fun s => { s with dryRun := true }⟩,
    ⟨"--report", none, .valued fun v s => { s with report := some v }⟩,
    ⟨"--help", none, .flag fun s => { s with help := true }⟩]

def paths (s : RunSettings) : List String := [s.file, s.envFile, s.report].filterMap id

def mode (s : RunSettings) : Option FormatMode :=
  if s.check then some .check else if s.fix then some .fix else none

end RunSettings

inductive Resolution where
  | found (p : Pipeline)
  | rejected (message : String)
  | fault (f : Fault)

namespace Resolution

def ofConfiguration : Except ConfigurationError Pipeline → Resolution
  | .ok p => .found p
  | .error e => .rejected e.message

def ofDefinition (build : Definition → Except ConfigurationError Pipeline) :
    Except LoadFailure Definition → Resolution
  | .ok d => ofConfiguration (build d)
  | .error (.rejected e) => .rejected e.message
  | .error (.fault f) => .fault f

def layer (env : Env) : Resolution → Resolution
  | .found p => .found (if env.isEmpty then p else p.withEnv (p.env.update env))
  | r => r

end Resolution

/-- What surrounds a command: the variables at hand, the cells of a line of its console, what is said
of texts that are no YAML, and what reports say of time and name. -/
structure Surroundings where
  environ : Env
  width : Nat
  explain : Yaml.Explain
  runId : String
  timestamp : String
  some_width : 0 < width

def here (w : World) : Path := ⟨.slash, w.home⟩

def defaultPreset : String := "rust"

def presetName (s : RunSettings) : String :=
  match s.preset with
  | some name => if name = "" then defaultPreset else name
  | none => defaultPreset

def pipelineOf (explain : Yaml.Explain) (w : World) (s : RunSettings) (file : Option Path)
    (env : Env) : Resolution :=
  match file with
  | some path => .ofDefinition (fun d => d.toPipeline s.mode env) (Definition.load explain w path)
  | none => (Resolution.ofConfiguration
      (Preset.build (presetName s) (s.mode.getD .fix))).layer env

def sourceFile (w : World) (s : RunSettings) : Except Fault (Option Path) :=
  match s.file, s.preset with
  | some file, _ => .ok (some (Path.ofString file))
  | none, some _ => .ok none
  | none, none => Pipeline.find w (here w)

def extraEnv (w : World) (environ : Env) (s : RunSettings) :
    Except EnvFile.Failure (Env × List LogRecord) :=
  match s.envFile with
  | some file => EnvFile.load w environ (Path.ofString file)
  | none => .ok (∅, [])

def resolve (w : World) (around : Surroundings) (s : RunSettings) :
    Resolution × List LogRecord :=
  if s.file.isSome && s.preset.isSome then
    (.rejected "--file and --preset are mutually exclusive", [])
  else match sourceFile w s with
    | .error f => (.fault f, [])
    | .ok file =>
      match extraEnv w around.environ s with
      | .error (.rejected e) => (.rejected e.message, [])
      | .error (.fault f) => (.fault f, [])
      | .ok (env, records) => (pipelineOf around.explain w s file env, records)

end Stepwise.Cli
