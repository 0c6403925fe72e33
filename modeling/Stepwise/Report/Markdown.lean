import Stepwise.Report.Summary

/-!
Summaries as Markdown: a table of facts, a table with a row for each executed step, the steps that
were not run, and the failure with its output in fenced blocks.
-/
namespace Stepwise

namespace Report

inductive Layout where
  | default
  deriving DecidableEq, Repr

namespace Layout

def name : Layout → String
  | default => "default"

def all : List Layout := [default]

end Layout

structure UnknownLayout where
  name : String
  deriving DecidableEq, Repr

def UnknownLayout.message (e : UnknownLayout) : String :=
  "Unknown report template '" ++ e.name ++ "'. Available: " ++
    ", ".intercalate (Layout.all.map Layout.name)

def Layout.ofName (name : String) : Except UnknownLayout Layout :=
  match Layout.all.find? fun l => l.name = name with
  | some l => .ok l
  | none => .error ⟨name⟩

end Report

namespace Summary

def line (text : String) : String := text ++ "\n"

def tableRow (cells : List String) : String :=
  line ("| " ++ " | ".intercalate cells ++ " |")

def code (text : String) : String := "\x60" ++ text ++ "\x60"

def fence : String := "\x60\x60\x60"

def fenced (text : String) : String := line fence ++ line text ++ line fence

def factsTable (s : Summary) : String :=
  tableRow ["Field", "Value"] ++
    line "|-------|-------|" ++
    tableRow ["Run ID", code s.runId] ++
    tableRow ["Status", if s.success then "Succeeded" else "Failed"] ++
    tableRow ["Steps run", toString s.stepsRun ++ " / " ++ toString s.totalSteps] ++
    tableRow ["Duration", toString s.durationMs ++ "ms"] ++
    tableRow ["Exit code", toString s.exitCode] ++
    tableRow ["Timestamp", s.timestamp]

def stepRow (r : SummaryRow) : String :=
  tableRow [toString r.index, r.name, code r.command,
    match r.exitCode with
      | some n => toString n
      | none => "-",
    toString r.durationMs ++ "ms", if r.success then "ok" else "FAILED"]

def stepsTable (s : Summary) : String :=
  tableRow ["#", "Step", "Command", "Exit code", "Duration", "Status"] ++
    line "|---|------|---------|-----------|----------|--------|" ++
    String.join (s.steps.map stepRow)

def notRunSection (s : Summary) : String :=
  if s.notRun.isEmpty then "" else "\n" ++ line ("Not run: " ++ ", ".intercalate s.notRun)

def given (text : Option String) : Option String :=
  text.filter (· ≠ "")

def outputSection (s : Summary) : String :=
  match given s.failureOutput with
  | some output => "\n\n" ++ line "### Output of the failing step" ++ "\n" ++ fenced output
  | none => ""

def failureSection (s : Summary) : String :=
  match given s.error with
  | some error =>
    "\n" ++ line "## Failure" ++ "\n" ++ fenced error ++ s.outputSection ++ "\n"
  | none => ""

def markdown (s : Summary) : String :=
  line ("# Pipeline report: " ++ s.pipelineName) ++ "\n" ++ s.factsTable ++ "\n" ++
    line "## Steps" ++ "\n" ++ s.stepsTable ++ "\n" ++ s.notRunSection ++ "\n" ++ s.failureSection

def render (s : Summary) : Report.Layout → String
  | .default => s.markdown

end Summary

end Stepwise
