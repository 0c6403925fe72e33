import Stepwise.Console
import Stepwise.Env.Masking
import Stepwise.Output
import Stepwise.Preset
import Stepwise.Run

/-!
What is printed about pipelines and runs: the table of a pipeline's steps, the trace of a run and
its summary. Whatever comes from outside is escaped, so that it is shown as it is, and the values of
secrets are masked.
-/
namespace Stepwise.Cli

open Console (printed)
open Console.Markup (escape)

def dash (text : String) : String := if text = "" then "-" else text

def envLine (env : Env) : String :=
  ", ".intercalate (env.mask.pairs.map fun p => p.1 ++ "=" ++ p.2)

def stepRow (index : Nat) (s : Step) : List String :=
  [toString index, escape (dash s.description), escape (CommandLine.join s.command),
    dash (escape (envLine s.env)),
    match s.cwd with
    | some dir => escape dir.toString
    | none => "-"]

def stepsTable (p : Pipeline) : Console.Table where
  title := "Pipeline: " ++ p.name
  columns := [⟨"#", .right⟩, ⟨"Step", .left⟩, ⟨"Command", .left⟩, ⟨"Env", .left⟩, ⟨"Cwd", .left⟩]
  rows := (List.range p.size).zipWith stepRow p.steps

def variableLine (name value : String) : String := "  " ++ escape name ++ " = " ++ escape value

section

variable (width : Nat)

def pipelineLines (p : Pipeline) : List (Except Fault String) :=
  Console.printedTable width (stepsTable p) ::
    if p.env.isEmpty then []
    else printed width "\n[bold]Pipeline env:[/bold]" ::
      p.env.mask.pairs.map fun v => printed width (variableLine v.1 v.2)

def startLine (command : List String) : Except Fault String :=
  printed width ("[bold]+ " ++ escape (CommandLine.join command) ++ "[/bold]")

def failedLine (index : Nat) (name : String) : Except Fault String :=
  printed width ("[red]x[/red] step " ++ toString index ++ " (" ++ escape name ++ ") failed")

def errorLine (message : String) : Except Fault String :=
  printed width ("[red]Error:[/red] " ++ escape message)

def counts (r : Report) (total : Nat) (what : String) : String :=
  "(" ++ toString r.stepsRun ++ "/" ++ toString total ++ what ++ ", " ++
    toString r.durationMs ++ "ms)"

def lastOutput (r : Report) : List (Except Fault String) :=
  match r.stepResults.getLast? with
  | some last =>
    if [last.stdout, last.stderr].any fun o => o.any (· ≠ "") then
      [printed width (escape (Output.format last.stdout last.stderr none))]
    else []
  | none => []

def reportLines (r : Report) (total : Nat) : List (Except Fault String) :=
  if r.success then
    [printed width ("[green]Pipeline '" ++ escape r.pipelineName ++ "' succeeded[/green] " ++
      counts r total " steps")]
  else
    [printed width ("[red]Pipeline '" ++ escape r.pipelineName ++ "' failed[/red] " ++
        counts r total " steps succeeded"),
      errorLine width ((r.failure.map Failure.message).getD "None")] ++ lastOutput width r

def lineError? : Except Fault String → Option Fault
  | .ok _ => none
  | .error f => some f

/-- The hooks that print the trace of a run. A line that cannot be printed stops the run. -/
def traceHooks {σ : Type} : Hooks σ Fault where
  onStart := some fun _ s w => (lineError? (startLine width s.command), w)
  onFinish := some fun _ r w =>
    (if r.success then none else lineError? (failedLine width r.index r.name), w)

def eventText (p : Pipeline) (e : Event) : String :=
  let line : Except Fault String := match e with
    | .start index _ => startLine width ((p.steps[index]?.map Step.command).getD [])
    | .finish index false => failedLine width index ((p.steps[index]?.map Step.name).getD "")
    | _ => .ok ""
  match line with
  | .ok text => text
  | .error _ => ""

def traceText (p : Pipeline) (trace : List Event) : String :=
  String.join (trace.map (eventText width p))

end

def presetsTable : Console.Table where
  title := "Presets"
  columns := [⟨"Name", .left⟩, ⟨"Steps", .right⟩, ⟨"Description", .left⟩]
  rows := Preset.all.map fun entry =>
    [entry.name, toString (entry.pipeline .fix).size, entry.summary]

end Stepwise.Cli
