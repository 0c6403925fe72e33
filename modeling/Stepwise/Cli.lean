import Stepwise.Cli.Display
import Stepwise.Cli.Resolution
import Stepwise.Report.Markdown

/-!
The command line: `run` runs a pipeline, `validate` checks a definition, `presets` lists the
built-in pipelines, and no command at all runs the default pipeline. A command is a function of its
arguments, the variables and files at hand and the state of its host, and gives what it prints, logs
and writes, and how it ends.
-/
namespace Stepwise.Cli

open Console (printed printAll)

structure Host (σ : Type) where
  /-- The executor that captures output, or the one that does not. -/
  executor : Bool → Executor σ Fault
  world : σ → World
  setWorld : World → σ → σ

inductive Exit where
  | code (n : Int)
  | usage (error : UsageError)
  | crashed (fault : Fault)

def stopFault : Stop Fault → Fault
  | .raised f => f
  | .refused e => .runtime e.message

structure Outcome (σ : Type) where
  stdout : String
  records : List LogRecord
  /-- Whether output is captured by the executor that was created, if one was. -/
  executor : Option Bool
  trace : List Event
  exit : Exit
  state : σ

def exitUsage : Int := 2

namespace Outcome

variable {σ : Type}

/-- A command that prints some things and ends, unless one of them cannot be printed. -/
def printing (lines : List (Except Fault String)) (exit : Exit) (records : List LogRecord)
    (state : σ) : Outcome σ :=
  let (text, fault) := printAll lines
  ⟨text, records, none, [], match fault with
    | some f => .crashed f
    | none => exit, state⟩

end Outcome

/-- Writes the report of a run, and tells whether that was done. A report that has no octets leaves
an empty file. -/
def exportReport (width : Nat) (w : World) (summary : Summary) (path : Path) :
    World × Except Fault String :=
  let warn := fun (reason : String) => printed width
    ("[yellow]Warning:[/yellow] Report export failed: " ++ Console.Markup.escape reason)
  let text := (summary.render .default).toList
  let refused := Text.Utf8.encodeError? text
  match nameFault? path.toString with
  | some f => (w, warn f.message)
  | none =>
    match w.write path.toString (if refused.isSome then [] else Text.Utf8.encode text), refused with
    | .error e, _ => (w, warn (e.message path.toString))
    | .ok w, some e => (w, warn e.message)
    | .ok w, none =>
      (w, printed width ("[green]Report exported:[/green] " ++ Console.Markup.escape path.toString))

section

variable {σ : Type}

/-- What is printed after a run that came to its end, and the fault that stops it. Then the report
is written, if that is asked for. -/
def afterRun (host : Host σ) (around : Surroundings) (s : RunSettings) (p : Pipeline) (r : Report)
    (state : σ) : String × Option Fault × σ :=
  match printAll (reportLines around.width r p.size), s.report with
  | (text, some f), _ => (text, some f, state)
  | (text, none), none => (text, none, state)
  | (text, none), some path =>
    let (w, line) := exportReport around.width (host.world state) (r.summary p around.timestamp)
      (Path.ofString path)
    let (more, fault) := printAll [line]
    (text ++ more, fault, host.setWorld w state)

def execute (host : Host σ) (around : Surroundings) (s : RunSettings) (p : Pipeline)
    (records : List LogRecord) (state : σ) : Outcome σ :=
  let context : Context := ⟨here (host.world state), around.environ⟩
  let run := p.run (host.executor s.capture) (traceHooks around.width) context around.runId state
  let records := records ++ run.trace.filterMap fun e =>
    match e with
    | .log r => some r
    | _ => none
  let shown := traceText around.width p run.trace
  match run.outcome with
  | .error e =>
    ⟨shown, records, some s.capture, run.trace, .crashed (stopFault e), run.state⟩
  | .ok r =>
    let (text, fault, state) := afterRun host around s p r run.state
    ⟨shown ++ text, records, some s.capture, run.trace,
      match fault with
      | some f => .crashed f
      | none => .code r.exitCode, state⟩

def runCommand (host : Host σ) (around : Surroundings) (s : RunSettings) (state : σ) : Outcome σ :=
  if s.check && s.fix then
    .printing [errorLine around.width "--check and --fix are mutually exclusive"]
      (.code exitUsage) []
      state
  else
    let (resolution, records) := resolve (host.world state) around s
    match resolution with
    | .fault f => .printing [] (.crashed f) records state
    | .rejected message => .printing [errorLine around.width message] (.code exitUsage) records state
    | .found p =>
      if s.dryRun then
        .printing (pipelineLines around.width p ++
            [printed around.width "\n[green]Pipeline definition is valid.[/green]"])
          (.code 0) records state
      else execute host around s p records state

def validateCommand (host : Host σ) (around : Surroundings) (file : Option String) (state : σ) :
    Outcome σ :=
  let w := host.world state
  let source : Except Fault (Option Path) := match file with
    | some f => .ok (some (Path.ofString f))
    | none => Pipeline.find w (here w)
  match source with
  | .error f => .printing [] (.crashed f) [] state
  | .ok none => 
    .printing [errorLine around.width "No pipeline file found (buildpipe.yaml)"] (.code 1) [] state
  | .ok (some path) =>
    match Resolution.ofDefinition (fun d => d.toPipeline none ∅)
      (Definition.load around.explain w path) with
    | .fault f => .printing [] (.crashed f) [] state
    | .rejected message =>
      let line := "[red]Invalid:[/red] " ++ Console.Markup.escape message
      .printing [printed around.width line] (.code 1) [] state
    | .found p =>
      .printing (pipelineLines around.width p ++ [printed around.width "[green]Valid[/green]"])
        (.code 0) [] state

def presetsCommand (around : Surroundings) (state : σ) : Outcome σ :=
  .printing [Console.printedTable around.width presetsTable] (.code 0) [] state

structure Settings where
  version : Bool
  verbose : Bool
  help : Bool

def options : List (OptionSpec Settings) :=
  [⟨"--version", none, .flag fun s => { s with version := true }⟩,
    ⟨"--verbose", some 'v', .flag fun s => { s with verbose := true }⟩,
    ⟨"--help", none, .flag fun s => { s with help := true }⟩]

def validateOptions : List (OptionSpec (Option String × Bool)) :=
  [⟨"--file", some 'f', .valued fun v s => (some v, s.2)⟩,
    ⟨"--help", none, .flag fun s => (s.1, true)⟩]

def presetsOptions : List (OptionSpec Bool) := [⟨"--help", none, .flag fun _ => true⟩]

def version : String := "0.1.0"

def helpText : String := "Usage: buildpipe [OPTIONS] COMMAND [ARGS]...\n"

def saying (text : String) (state : σ) : Outcome σ := .printing [.ok text] (.code 0) [] state

def misused (e : UsageError) (state : σ) : Outcome σ := .printing [] (.usage e) [] state

def withSettings {α : Type} (options : List (OptionSpec α)) (start : α) (args : List String)
    (state : σ) (go : α → Outcome σ) : Outcome σ :=
  match readArgs options true args with
  | .error e => misused e state
  | .ok (effect, []) => go (effect start)
  | .ok (_, operand :: _) => misused (.operandUnexpected operand) state

def withPaths (paths : List String) (state : σ) (go : Outcome σ) : Outcome σ :=
  match paths.find? fun path => (nameFault? path).isSome with
  | some path => misused (.pathUnusable path) state
  | none => go

def command (host : Host σ) (around : Surroundings) (name : String) (args : List String)
    (state : σ) : Outcome σ :=
  match name with
  | "run" => withSettings RunSettings.options .default args state fun s =>
      if s.help then saying helpText state
      else withPaths s.paths state (runCommand host around s state)
  | "validate" => withSettings validateOptions (none, false) args state fun s =>
      if s.2 then saying helpText state
      else withPaths s.1.toList state (validateCommand host around s.1 state)
  | "presets" => withSettings presetsOptions false args state fun help =>
      if help then saying helpText state else presetsCommand around state
  | name => misused (.unknownCommand name) state

def invoke (host : Host σ) (around : Surroundings) (args : List String) (state : σ) :
    Outcome σ × LogSetup :=
  match readArgs options false args with
  | .error e => (misused e state, .initial)
  | .ok (effect, operands) =>
    let settings := effect ⟨false, false, false⟩
    if settings.help then (saying helpText state, .initial)
    else if settings.version then
      (.printing [printed around.width ("buildpipe " ++ version)] (.code 0) [] state, .initial)
    else
      (match operands with
        | [] => runCommand host around .default state
        | name :: args => command host around name args state,
        LogSetup.initial.setup settings.verbose)

end

def Outcome.stderr {σ : Type} (o : Outcome σ) (setup : LogSetup) : String :=
  String.join (o.records.map setup.written)

def Exit.status : Exit → Int
  | code n => n
  | usage _ => exitUsage
  | crashed _ => 1

end Stepwise.Cli
