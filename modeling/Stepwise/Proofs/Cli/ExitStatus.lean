import Stepwise.Proofs.Cli.Arguments
import Stepwise.Proofs.Cli.Lines
import Stepwise.Proofs.Run.Bystanders
import Stepwise.Proofs.Run.ExitCode

/-! How a run ends as a process. Printing and the export of a report come after each other and may
break down, but only on texts without octets; where all texts that are shown have octets, the exit
code is that of the answers of the executor, and neither the export, nor captured output, nor the
loudness of the log has a part in it. -/
namespace Stepwise.Cli

open Console (printed printAll)
open Course

variable {σ : Type}

def baseOf (host : Host σ) (around : Surroundings) (state : σ) : Context :=
  ⟨here (host.world state), around.environ⟩

/-- The settings lead to a run of a pipeline on an executor that responds to its steps. -/
structure Runs (host : Host σ) (around : Surroundings) (s : RunSettings) (state : σ)
    (p : Pipeline) : Prop where
  mode : (s.check && s.fix) = false
  resolved : (resolve (host.world state) around s).1 = .found p
  executes : s.dryRun = false
  responds : Responds (host.executor s.capture) (p.baseContext (baseOf host around state)) p.steps

/-- What the run reports when nobody looks. -/
def Reported (host : Host σ) (around : Surroundings) (s : RunSettings) (state : σ) (p : Pipeline)
    (r : Report) : Prop :=
  (p.run (host.executor s.capture) .silent (baseOf host around state) around.runId
    state).outcome = .ok r

/-- What is shown of a run has octets: the commands that were started, the step that failed and why,
what it wrote, and where the report is written. -/
structure Shown (r : Report) (report : Option String) : Prop where
  name : Legible r.pipelineName.toList
  commands : ∀ e ∈ r.stepResults, ∀ arg ∈ e.command, Legible arg.toList
  failed : ∀ e ∈ r.stepResults, e.success = false → Legible e.name.toList
  failure : ∀ f, r.failure = some f → Legible f.message.toList
  output : r.success = false → ∀ last, r.stepResults.getLast? = some last →
    (∀ s, last.stdout = some s → Legible s.toList) ∧ ∀ s, last.stderr = some s → Legible s.toList
  report : ∀ path, report = some path → Legible path.toList

section Printing

theorem admits_traceHooks (width : Nat) {r : Report} {report : Option String}
    (shown : Shown r report) (s : Step) (e : StepResult) (inside : e ∈ r.stepResults)
    (same : e.command = s.command) :
    Admits (traceHooks width : Hooks σ Fault) s e := by
  constructor
  · intro w
    obtain ⟨line, told⟩ := startLine_ok (same ▸ shown.commands e inside) width
    simp [Hooks.start, traceHooks, told, lineError?]
  · intro w
    cases ended : e.success with
    | true => simp [Hooks.finish, traceHooks, ended]
    | false =>
      obtain ⟨line, told⟩ := failedLine_ok e.index (shown.failed e inside ended) width
      simp [Hooks.finish, traceHooks, ended, told, lineError?]

theorem exportReport_ok (width : Nat) (w : World) (summary : Summary) {path : String}
    (h : Legible path.toList) :
    ∃ line, (exportReport width w summary (Path.ofString path)).2 = .ok line := by
  have warned : ∀ reason : String, Legible reason.toList →
      ∃ line, printed width ("[yellow]Warning:[/yellow] Report export failed: " ++
        Console.Markup.escape reason) = .ok line := fun reason legible =>
    noticeLine_ok ["yellow".toList, "/yellow".toList] (fun _ => rfl) (by decide) (by decide) legible
      width
  unfold exportReport
  simp only
  split
  · rename_i f unusable
    exact warned _ (legible_of_nameFault? unusable)
  · split
    · exact warned _ (Errno.legible_message _ _)
    · exact warned _ (Text.Utf8.EncodeError.legible_message _)
    · exact noticeLine_ok ["green".toList, "/green".toList] (fun _ => rfl) (by decide) (by decide)
        (Path.legible_toString h) width

/-- The summary is printed and the report exported, or not, and nothing breaks down. -/
theorem afterRun_ok (host : Host σ) (around : Surroundings) {s : RunSettings} (p : Pipeline)
    {r : Report} (state : σ) (shown : Shown r s.report) :
    ∃ text after, afterRun host around s p r state = (text, none, after) := by
  obtain ⟨text, all⟩ := printAll_ok
    (reportLines_ok p.size shown.name shown.failure shown.output around.width)
  unfold afterRun
  rw [all]
  cases place : s.report with
  | none => exact ⟨text, state, rfl⟩
  | some path =>
    obtain ⟨line, told⟩ := exportReport_ok around.width (host.world state)
      (r.summary p around.timestamp)
      (shown.report path place)
    simp only
    rw [told]
    exact ⟨_, _, rfl⟩

end Printing

section Command

theorem execute_trace (host : Host σ) (around : Surroundings) (s : RunSettings) (p : Pipeline)
    (state : σ) (records : List LogRecord) :
    (execute host around s p records state).trace =
      (p.run (host.executor s.capture) (traceHooks around.width) (baseOf host around state)
        around.runId state).trace := by
  unfold execute baseOf
  simp only
  split <;> rfl

variable {host : Host σ} {around : Surroundings} {s : RunSettings} {state : σ} {p : Pipeline}
  {r : Report}

theorem runCommand_eq_execute (mode : (s.check && s.fix) = false)
    (resolved : (resolve (host.world state) around s).1 = .found p)
    (executes : s.dryRun = false) :
    runCommand host around s state =
      execute host around s p (resolve (host.world state) around s).2 state := by
  unfold runCommand
  rw [mode]
  rcases found : resolve (host.world state) around s with ⟨resolution, records⟩
  rw [found] at resolved
  subst resolved
  simp [executes]

/-- The command ends with the exit code of the report, and has handed over what the run does when
nobody looks. -/
theorem Runs.command (runs : Runs host around s state p)
    (reported : Reported host around s state p r) (shown : Shown r s.report) :
    (runCommand host around s state).exit = .code r.exitCode ∧
      calls (runCommand host around s state).trace =
        (p.steps.take r.stepResults.length).map (callOf (p.baseContext (baseOf host around state))) := by
  obtain ⟨mode, resolved, executes, -⟩ := runs
  have executed := runCommand_eq_execute mode resolved executes
  obtain ⟨outcome, -⟩ := run_admitted reported
    (fun t _ e inside command => admits_traceHooks around.width shown t e inside command)
  have handed := calls_of_reported outcome
  rw [executed]
  unfold execute
  unfold baseOf at outcome handed
  simp only [outcome]
  obtain ⟨text, after, done⟩ := afterRun_ok host around p
    (p.run (host.executor s.capture) (traceHooks around.width)
      ⟨here (host.world state), around.environ⟩ around.runId state).state shown
  rw [done]
  exact ⟨rfl, handed⟩

theorem resolve_core (w : World) (around : Surroundings) (s : RunSettings) :
    resolve w around s.core = resolve w around s := rfl

/-- Settings that differ in capture and report lead to the same run on an executor that answers
alike. -/
theorem Runs.other {s' : RunSettings} (runs : Runs host around s state p) (core : s'.core = s.core)
    (alike : (host.executor s.capture).Alike (host.executor s'.capture)) :
    Runs host around s' state p where
  mode := (congrArg (fun c => c.check && c.fix) core).trans runs.mode
  resolved := by
    rw [← resolve_core, core, resolve_core]
    exact runs.resolved
  executes := (congrArg RunSettings.dryRun core).trans runs.executes
  responds := runs.responds.of_alike alike

/-- A run that its arguments ask for, whose executor responds and whose texts have octets, ends with
the code of its answers, and its calls are those of the steps that were answered. Other arguments
that ask for the same but for the capture of output, the report and the loudness of the log end with
the same code and have the same calls. -/
theorem run_exit_status {args : List String} {verbose : Bool} (asks : Asks args verbose s)
    (runs : Runs host around s state p)
    (shown : ∀ r, Reported host around s state p r → Shown r s.report) :
    (∃ replies code, Answers (host.executor s.capture) .silent
        (p.baseContext (baseOf host around state)) 0 p.steps state replies ∧
      ExitsBy p replies code ∧ 0 ≤ code ∧ code ≤ 255 ∧
      (invoke host around args state).1.exit = .code code ∧
      calls (invoke host around args state).1.trace =
        (p.steps.take replies.length).map (callOf (p.baseContext (baseOf host around state)))) ∧
    ∀ args' verbose' s', Asks args' verbose' s' → s'.core = s.core →
      (host.executor s.capture).Alike (host.executor s'.capture) →
      (∀ r', Reported host around s' state p r' → Shown r' s'.report) →
      (invoke host around args' state).1.exit = (invoke host around args state).1.exit ∧
      calls (invoke host around args' state).1.trace =
        calls (invoke host around args state).1.trace := by
  obtain ⟨r, reported⟩ := runs.responds.reports around.runId state
  obtain ⟨exit, handed⟩ := runs.command reported (shown r reported)
  rw [asks.invoke_eq]
  constructor
  · obtain ⟨replies, answers, coherent⟩ := coherent_of_reported reported
    have exits := coherent.exitsBy
    obtain ⟨last, -, code⟩ := exits.last
    refine ⟨replies, r.exitCode, answers, exits, code.bounds.1, code.bounds.2, exit, ?_⟩
    rw [coherent.answered]
    exact handed
  · intro args' verbose' s' asks' core alike shown'
    -- The two reports agree on everything but output.
    obtain ⟨r', reported', same, -⟩ := alike.run reported
    obtain ⟨exit', handed'⟩ := (runs.other core alike).command reported' (shown' r' reported')
    have code : r'.exitCode = r.exitCode := by
      have success : r'.bare.success = r.bare.success := congrArg Report.success same
      have failure : r'.bare.failure = r.bare.failure := congrArg Report.failure same
      simp only [Report.bare] at success failure
      rw [Report.exitCode, success, failure, ← Report.exitCode]
    have count : r'.stepResults.length = r.stepResults.length := by
      have results := congrArg (fun report => report.stepResults.length) same
      simpa [Report.bare] using results
    rw [asks'.invoke_eq, exit, exit', handed, handed', code, count]
    exact ⟨rfl, rfl⟩

end Command

section Killed

def lethal : Host World where
  executor capture := {
    execute := fun _ _ _ w => (.completed ⟨-9, if capture then some "..." else none, none, 5⟩, w)
    announce := fun _ _ _ => []
    elapsedMs := fun _ _ => .ok 20 }
  world := id
  setWorld w _ := w

def killedReport (capture : Bool) : Report where
  pipelineName := "rust"
  runId := ""
  success := false
  stepsRun := 0
  stepResults := [⟨0, "Update package index", ["apt", "update", "-qq"], some (-9),
    if capture then some "..." else none, none, 5, false,
    some "Step 0 failed with exit code -9: apt update -qq"⟩]
  failure := some (.exited 0 ["apt", "update", "-qq"] (-9))
  durationMs := 20
  state := ⟨0, .failed, true, some (.exited 0 ["apt", "update", "-qq"] (-9))⟩

def rustSettings (capture : Bool) (report : Option String) : RunSettings :=
  { RunSettings.default with preset := some "rust", capture := capture, report := report }

theorem killed_runs (capture : Bool) (report : Option String) :
    Runs lethal .bare (rustSettings capture report) ⟨[], []⟩
      (Preset.rust .fix Preset.nativePackages) where
  mode := rfl
  resolved := rfl
  executes := rfl
  responds := ⟨fun _ _ _ _ => nofun, fun _ _ => ⟨20, rfl⟩⟩

theorem killed_reported (capture : Bool) (report : Option String) :
    Reported lethal .bare (rustSettings capture report) ⟨[], []⟩
      (Preset.rust .fix Preset.nativePackages) (killedReport capture) := by
  cases capture <;> rfl

theorem killed_shown (capture : Bool) {report : Option String}
    (place : ∀ path, report = some path → Legible path.toList) (r : Report)
    (reported : Reported lethal .bare (rustSettings capture report) ⟨[], []⟩
      (Preset.rust .fix Preset.nativePackages) r) : Shown r report := by
  cases Except.ok.inj (reported.symm.trans (killed_reported capture report))
  refine ⟨(by decide : Legible "rust".toList), ?_, ?_, ?_, ?_, place⟩
  · cases capture <;> decide
  · cases capture <;> decide
  · intro f found
    cases found
    decide
  · rintro - last found
    cases found
    cases capture <;> decide

/-- A killed step, with and without the options that have no part in the exit code. -/
theorem run_exit_status_killed :
    (invoke lethal .bare ["run", "--preset", "rust"] ⟨[], []⟩).1.exit = .code 137 ∧
    (invoke lethal .bare
      ["--verbose", "run", "--capture", "--report", "r.md", "--preset", "rust"] ⟨[], []⟩).1.exit =
        .code 137 := by
  have preset : Reads RunSettings.options true ["--preset", "rust"]
      (fun s => { s with preset := some "rust" }) [] := .value (by decide) (by decide) rfl
  have asks : Asks ["run", "--preset", "rust"] false (rustSettings false none) :=
    .intro (.command _ (by decide) (by decide) rfl) rfl preset rfl (by decide)
  have report : Reads RunSettings.options true ["--report", "r.md", "--preset", "rust"] _ [] :=
    .option (by decide) (by decide) rfl preset
  have capture : Reads RunSettings.options true
      ["--capture", "--report", "r.md", "--preset", "rust"] _ [] :=
    .option (by decide) (by decide) rfl report
  have asks' : Asks ["--verbose", "run", "--capture", "--report", "r.md", "--preset", "rust"] true
      (rustSettings true (some "r.md")) :=
    .intro (.option (by decide) (by decide) rfl (.command _ (by decide) (by decide) rfl)) rfl
      capture rfl (by decide)
  obtain ⟨⟨replies, code, answers, exits, -, -, exit, -⟩, others⟩ :=
    run_exit_status asks (killed_runs false none) (killed_shown false (by rintro path ⟨⟩))
  obtain ⟨same, -⟩ := others _ _ _ asks' rfl rfl (killed_shown true (by decide))
  have killed : code = 137 := by
    obtain ⟨reply, last, ends⟩ := exits.last
    cases answers with
    | none => cases last
    | last started replied =>
      cases replied
      cases last
      exact ends.unique (.killed 9 (by decide) (by decide) rfl)
    | next first others =>
      obtain ⟨after, ⟨started, replied, timed, yields⟩, -⟩ := first
      cases replied
      obtain ⟨zero⟩ := yields
      cases zero
  rw [same, exit, killed]
  exact ⟨rfl, rfl⟩

end Killed

end Stepwise.Cli
