import Stepwise.Proofs.Cli.ExitStatus
import Stepwise.Proofs.Cli.Literal
import Stepwise.Proofs.Cli.Naming
import Stepwise.Proofs.CommandLine.RoundTrip
import Stepwise.Proofs.Run.Coherence
import Stepwise.Proofs.Run.Trace

/-! What the transcript of a run says. Right before a command is handed over its line is printed, and
after a failure the error and what the failing command wrote; each line says its text, whatever
stands in it, and is the text itself where that shows itself and fits. -/
namespace Stepwise.Cli

open Console (printed printAll)
open Course

variable {σ : Type}

section Texts

variable {width : Nat}

theorem traceText_append (p : Pipeline) (a b : List Event) :
    traceText width p (a ++ b) = traceText width p a ++ traceText width p b := by
  simp [traceText, String.join_append]

/-- The line before a command that is handed over is printed, and is the last before it. -/
theorem line_before_exec {p : Pipeline} {ex : Executor σ Fault} {base : Context} {runId : String}
    {w : σ} {before after : List Event} {command : String} {args : List String} {context : Context}
    (split : (p.run ex (traceHooks width) base runId w).trace =
      before ++ .exec command args context :: after) :
    ∃ earlier line, traceText width p before = earlier ++ line ∧
      Tells width "+ " (CommandLine.join (command :: args)) line := by
  obtain ⟨earlier, index, s, ⟨inside, w₀, w₁, started⟩, rfl, rfl, rfl⟩ :=
    run_opened ex (traceHooks width) p base runId w before command args context after split
  have let' : lineError? (startLine width s.command) = none := congrArg Prod.fst started
  cases told : startLine width s.command with
  | error f =>
    rw [told] at let'
    cases let'
  | ok line =>
    have text : eventText width p (.start index s.name) = line := by
      simp [eventText, inside, told]
    refine ⟨traceText width p earlier, line, ?_, ?_⟩
    · rw [traceText_append]
      show _ ++ traceText width p [.start index s.name] = _
      simp [traceText, text]
    · rw [s.executable_args]
      exact startLine_tells told

/-- What is printed of a failure: a line about the run, the error, and what the last command
wrote. -/
theorem printAll_failure {r : Report} {f : Failure} (total : Nat) (unsuccessful : r.success = false)
    (failure : r.failure = some f) (name : Plain r.pipelineName.toList)
    (message : Legible f.message.toList) :
    ∃ head error fault, printAll (reportLines width r total) =
        (head ++ error ++ (printAll (lastOutput width r)).1, fault) ∧
      Tells width "Error: " f.message error := by
  obtain ⟨error, told⟩ := errorLine_ok message width
  obtain ⟨summary, summarized⟩ := failureSummary_ok total name.legible width
  refine ⟨summary, error, (printAll (lastOutput width r)).2, ?_, errorLine_tells told⟩
  unfold reportLines
  simp only [unsuccessful, failure, summarized]
  simp [printAll, String.append_assoc, told]

def Wrote (e : StepResult) : Prop :=
  (∃ s, e.stdout = some s ∧ s ≠ "") ∨ ∃ s, e.stderr = some s ∧ s ≠ ""

theorem printAll_lastOutput {r : Report} {last : StepResult}
    (at_end : r.stepResults.getLast? = some last) (wrote : Wrote last)
    (legible : Legible (Output.format last.stdout last.stderr none).toList) :
    Tells width "" (Output.format last.stdout last.stderr none)
      (printAll (lastOutput width r)).1 := by
  have some : [last.stdout, last.stderr].any fun o => o.any (· ≠ "") := by
    rcases wrote with ⟨s, out, filled⟩ | ⟨s, err, filled⟩
    · simp [out, filled]
    · simp [err, filled]
  obtain ⟨line, told⟩ : ∃ line, printed width
      ("" ++ Console.Markup.escape (Output.format last.stdout last.stderr none)) = .ok line :=
    noticeLine_ok [] (fun _ => rfl) rfl (by decide) legible width
  rw [String.empty_append] at told
  have text : (printAll (lastOutput width r)).1 = line := by
    simp only [lastOutput, at_end, some, if_true, told, printAll, String.append_empty]
  rw [text]
  exact escaped_tells told

end Texts

section Failing

variable {p : Pipeline} {r : Report} {ex : Executor σ Fault} {base : Context} {runId : String}
  {w : σ}

theorem unsuccessful_of_failure {hooks : Hooks σ Fault} {f : Failure}
    (reported : (p.run ex hooks base runId w).outcome = .ok r) (failure : r.failure = some f) :
    r.success = false ∧ r.pipelineName = p.name := by
  obtain ⟨replies, -, coherent⟩ := coherent_of_reported reported
  refine ⟨?_, coherent.names.1⟩
  rcases coherent.ended with success | ⟨i, s, cause, failed⟩
  · rw [success.failure] at failure
    cases failure
  · exact failed.success

theorem failing_is_last {hooks : Hooks σ Fault}
    (reported : (p.run ex hooks base runId w).outcome = .ok r) {e : StepResult}
    (member : e ∈ r.stepResults) (failing : e.success = false) :
    r.stepResults.getLast? = some e := by
  obtain ⟨replies, -, coherent⟩ := coherent_of_reported reported
  rcases coherent.ended with success | ⟨i, s, cause, failed⟩
  · have well := (success.well e member).success
    rw [failing] at well
    cases well
  · obtain ⟨j, place⟩ := List.mem_iff_getElem?.mp member
    have inRange := (List.getElem?_eq_some_iff.mp place).1
    -- All steps before the one at which the run ended did well.
    have last : j = i := by
      by_contra other
      have length := failed.results
      have earlier : e ∈ r.stepResults.take i := by
        rw [List.mem_iff_getElem?]
        exact ⟨j, by rw [List.getElem?_take_of_lt (by omega), place]⟩
      have well := (failed.well e earlier).success
      rw [failing] at well
      cases well
    rw [List.getLast?_eq_getElem?, failed.results, Nat.add_sub_cancel, ← last, place]

end Failing

section Command

section Lines

variable (host : Host σ) (around : Surroundings) (s : RunSettings) (p : Pipeline) (state : σ)

theorem execute_stdout (records : List LogRecord) :
    ∃ rest, (execute host around s p records state).stdout =
      traceText around.width p (execute host around s p records state).trace ++ rest := by
  unfold execute
  simp only
  split
  · exact ⟨"", String.append_empty.symm⟩
  · exact ⟨_, rfl⟩

theorem afterRun_text (r : Report) (w : σ) :
    ∃ rest, (afterRun host around s p r w).1 =
      (printAll (reportLines around.width r p.size)).1 ++ rest := by
  unfold afterRun
  rcases printAll (reportLines around.width r p.size) with ⟨text, _ | f⟩
  · cases s.report with
    | none => exact ⟨"", String.append_empty.symm⟩
    | some path => exact ⟨_, rfl⟩
  · exact ⟨"", String.append_empty.symm⟩

theorem execute_stdout_of_reported {r : Report} (records : List LogRecord)
    (reported : (p.run (host.executor s.capture) (traceHooks around.width)
      (baseOf host around state) around.runId state).outcome = .ok r) :
    ∃ rest, (execute host around s p records state).stdout =
      traceText around.width p (execute host around s p records state).trace ++
        (printAll (reportLines around.width r p.size)).1 ++ rest := by
  unfold baseOf at reported
  unfold execute
  simp only [reported]
  obtain ⟨rest, text⟩ := afterRun_text host around s p r
    (p.run (host.executor s.capture) (traceHooks around.width)
      ⟨here (host.world state), around.environ⟩ around.runId state).state
  exact ⟨rest, by rw [text, String.append_assoc]⟩

end Lines

variable {host : Host σ} {around : Surroundings} {s : RunSettings} {state : σ} {p : Pipeline}
  {args : List String} {verbose : Bool}

/-- What the transcript of a run says, whatever the executor answers. The last line before a command
is handed over says the command line, from which the command can be read back. After a failure there
is a line that says the error, and right below it what the failing step wrote, as far as these can be
written. Each line is what it says, character by character, unless that has something in it that does
not show itself, or is too wide. -/
theorem run_transcript (asks : Asks args verbose s) (mode : (s.check && s.fix) = false)
    (resolved : (resolve (host.world state) around s).1 = .found p)
    (executes : s.dryRun = false) :
    let o := (invoke host around args state).1
    (∀ before command args' context after,
      o.trace = before ++ .exec command args' context :: after →
      ∃ earlier line rest, traceText around.width p before = earlier ++ line ∧
        o.stdout = earlier ++ line ++ rest ∧
        Tells around.width "+ " (CommandLine.join (command :: args')) line ∧
        CommandLine.split (CommandLine.join (command :: args')) = .ok (command :: args')) ∧
    ∀ r f, (p.run (host.executor s.capture) (traceHooks around.width) (baseOf host around state)
        around.runId state).outcome = .ok r → r.failure = some f → Legible f.message.toList →
      ∃ before error output rest, o.stdout = before ++ error ++ output ++ rest ∧
        Tells around.width "Error: " f.message error ∧
        ∀ e ∈ r.stepResults, e.success = false → Wrote e →
          Legible (Output.format e.stdout e.stderr none).toList →
          Tells around.width "" (Output.format e.stdout e.stderr none) output := by
  have named := resolve_named (host.world state) around s
  rw [resolved] at named
  have trace := execute_trace host around s p state (resolve (host.world state) around s).2
  simp only [asks.invoke_eq, runCommand_eq_execute mode resolved executes]
  constructor
  · intro before command args' context after split
    obtain ⟨rest, text⟩ := execute_stdout host around s p state
      (resolve (host.world state) around s).2
    obtain ⟨earlier, line, last, tells⟩ := line_before_exec (trace.symm.trans split)
    refine ⟨earlier, line, traceText around.width p (.exec command args' context :: after) ++ rest,
      last, ?_, tells, CommandLine.split_join _⟩
    rw [text, split, traceText_append, last]
    simp only [String.append_assoc]
  · intro r f reported failure legible
    obtain ⟨unsuccessful, name⟩ := unsuccessful_of_failure reported failure
    obtain ⟨head, error, fault, printed, tells⟩ := printAll_failure p.size unsuccessful
      failure (name ▸ named) legible
    obtain ⟨rest, text⟩ := execute_stdout_of_reported host around s p state
      (resolve (host.world state) around s).2 reported
    refine ⟨traceText around.width p (execute host around s p
      (resolve (host.world state) around s).2 state).trace ++ head, error,
      (printAll (lastOutput around.width r)).1, rest, ?_, tells, ?_⟩
    · rw [text, printed]
      simp only [String.append_assoc]
    · intro e member failing wrote writable
      exact printAll_lastOutput (failing_is_last reported member failing) wrote writable

/-- The built-in pipeline on a host that kills its first command: the line before it, the error and
what was captured stand there as they are. -/
theorem run_transcript_killed :
    (∃ earlier rest, (invoke lethal .bare ["run", "--capture", "--preset", "rust"]
      ⟨[], []⟩).1.stdout = earlier ++ "+ apt update -qq\n" ++ rest) ∧
    ∃ before rest, (invoke lethal .bare ["run", "--capture", "--preset", "rust"]
      ⟨[], []⟩).1.stdout =
        before ++ "Error: Step 0 failed with exit code -9: apt update -qq\n" ++ "STDOUT:\n...\n" ++
          rest := by
  have preset : Reads RunSettings.options true ["--preset", "rust"] _ [] :=
    .value (by decide) (by decide) rfl
  have capture : Reads RunSettings.options true ["--capture", "--preset", "rust"] _ [] :=
    .option (by decide) (by decide) rfl preset
  have asks : Asks ["run", "--capture", "--preset", "rust"] false (rustSettings true none) :=
    .intro (.command _ (by decide) (by decide) rfl) rfl capture rfl (by decide)
  have runs := killed_runs true none
  obtain ⟨lines, failure⟩ := run_transcript asks runs.mode runs.resolved runs.executes
  constructor
  · have called : .exec "apt" ["update", "-qq"]
        ⟨⟨.slash, []⟩, .ofPairs [("DEBIAN_FRONTEND", "noninteractive")]⟩ ∈
          (invoke lethal .bare ["run", "--capture", "--preset", "rust"] ⟨[], []⟩).1.trace := by
      decide +kernel
    obtain ⟨before, after, split⟩ := List.append_of_mem called
    obtain ⟨earlier, line, rest, -, text, tells, -⟩ := lines _ _ _ _ _ split
    have literal : line = "+ apt update -qq\n" :=
      (tells.literal (by decide +kernel) (by decide +kernel)).trans (by decide +kernel)
    exact ⟨earlier, rest, by rw [text, literal]⟩
  · have reported := killed_reported true none
    obtain ⟨outcome, -⟩ := run_admitted reported fun t _ e inside command =>
      admits_traceHooks 80 (killed_shown true (by rintro path ⟨⟩) _ reported) t e inside command
    obtain ⟨before, error, output, rest, text, tells, captured⟩ :=
      failure _ _ outcome rfl (by decide +kernel)
    have captured := captured _ List.mem_cons_self rfl (.inl ⟨"...", rfl, by decide⟩)
      (by decide +kernel)
    have told : error = "Error: Step 0 failed with exit code -9: apt update -qq\n" :=
      (tells.literal (by decide +kernel) (by decide +kernel)).trans (by decide +kernel)
    have wrote : output = "STDOUT:\n...\n" :=
      (captured.literal (by decide +kernel) (by decide +kernel)).trans (by decide +kernel)
    exact ⟨before, rest, by rw [text, told, wrote]⟩

end Command

end Stepwise.Cli
