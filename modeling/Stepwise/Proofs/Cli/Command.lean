import Stepwise.Proofs.Cli.ExitStatus
import Stepwise.Proofs.Cli.Sources
import Stepwise.Proofs.Run.Frame

/-! What the command that runs pipelines can do. It tells why there is no pipeline to run, breaks down
on the way to one, lists the steps, or runs them; only then an executor is created. Apart from files
that are written in the end, the state is changed by the commands of the steps alone. -/
namespace Stepwise.Cli

open Console (printed)
open Course (calls stateAfter)

variable {σ : Type} {host : Host σ} {around : Surroundings} {s : RunSettings} {state : σ}

theorem Outcome.printing_silent (lines : List (Except Fault String)) (exit : Exit)
    (records : List LogRecord) (state : σ) :
    (printing lines exit records state).executor = none ∧
      (printing lines exit records state).trace = [] ∧
      (printing lines exit records state).state = state := ⟨rfl, rfl, rfl⟩

/-- The ways that the command takes, with what it does on each. -/
inductive Way (host : Host σ) (around : Surroundings) (s : RunSettings) (state : σ) :
    Outcome σ → Prop where
  | modes (both : (s.check && s.fix) = true) : Way host around s state
      (.printing [errorLine around.width "--check and --fix are mutually exclusive"] (.code exitUsage)
        [] state)
  | rejected {message : String} {records : List LogRecord} (one : (s.check && s.fix) = false)
      (resolved : resolve (host.world state) around s = (.rejected message, records)) :
      Way host around s state
        (.printing [errorLine around.width message] (.code exitUsage) records state)
  | broken {f : Fault} {records : List LogRecord} (one : (s.check && s.fix) = false)
      (resolved : resolve (host.world state) around s = (.fault f, records)) :
      Way host around s state (.printing [] (.crashed f) records state)
  | listed {p : Pipeline} {records : List LogRecord} (one : (s.check && s.fix) = false)
      (resolved : resolve (host.world state) around s = (.found p, records))
      (dry : s.dryRun = true) : Way host around s state (.printing
        (pipelineLines around.width p ++
          [printed around.width "\n[green]Pipeline definition is valid.[/green]"]) (.code 0)
        records state)
  | run {p : Pipeline} {records : List LogRecord} (one : (s.check && s.fix) = false)
      (resolved : resolve (host.world state) around s = (.found p, records))
      (executes : s.dryRun = false) : Way host around s state (execute host around s p records state)

theorem runCommand_way (host : Host σ) (around : Surroundings) (s : RunSettings) (state : σ) :
    Way host around s state (runCommand host around s state) := by
  unfold runCommand
  cases modes : s.check && s.fix with
  | true => exact .modes modes
  | false =>
    rcases resolved : resolve (host.world state) around s with ⟨resolution, records⟩
    cases resolution with
    | fault f => exact .broken modes resolved
    | rejected message => exact .rejected modes resolved
    | found p =>
      cases dry : s.dryRun with
      | true => exact .listed modes resolved dry
      | false => exact .run modes resolved dry

section Execution

variable (host : Host σ) (around : Surroundings) (s : RunSettings) (p : Pipeline) (state : σ)
  (records : List LogRecord)

theorem execute_executor : (execute host around s p records state).executor = some s.capture := by
  unfold execute
  simp only
  split <;> rfl

theorem traceHooks_look (width : Nat) : (traceHooks width : Hooks σ Fault).Look :=
  ⟨fun _ _ _ => rfl, fun _ _ => rfl⟩

/-- The state that the commands leave is left as it is, or the report is written into it. -/
inductive Reporting (host : Host σ) (width : Nat) (s : RunSettings) (state : σ) : σ → Prop where
  | nothing : Reporting host width s state state
  | report {path : String} (asked : s.report = some path) (summary : Summary) :
      Reporting host width s state (host.setWorld
        (exportReport width (host.world state) summary (Path.ofString path)).1 state)

theorem afterRun_reporting (r : Report) :
    Reporting host around.width s state (afterRun host around s p r state).2.2 := by
  unfold afterRun
  rcases Console.printAll (reportLines around.width r p.size) with ⟨text, _ | f⟩
  · cases asked : s.report with
    | none => exact .nothing
    | some path => exact .report asked _
  · exact .nothing

theorem execute_reporting :
    Reporting host around.width s (stateAfter (host.executor s.capture)
        (calls (execute host around s p records state).trace) state)
      (execute host around s p records state).state := by
  have frame := Course.run_frame (host.executor s.capture) (traceHooks_look around.width) p
    (baseOf host around state) around.runId state
  rw [execute_trace, ← frame]
  unfold execute baseOf
  simp only
  split
  · exact .nothing
  · exact afterRun_reporting host around s p _ _

end Execution

end Stepwise.Cli
