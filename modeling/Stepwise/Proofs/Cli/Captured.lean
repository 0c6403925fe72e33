import Stepwise.Proofs.Cli.Transcript
import Stepwise.Proofs.Report.Partition
import Stepwise.Proofs.Run.Muted

/-! Who hears captured output. What commands that ended well wrote is nowhere to be found in what a
command line prints, logs, runs, writes or ends with, and what is shown of a run that failed is what it
would be without any output, and the output of the step that failed. -/
namespace Stepwise

theorem Report.summary_muted (r : Report) (p : Pipeline) (timestamp : String) :
    r.muted.summary p timestamp = r.summary p timestamp := by
  have rows : StepResult.row ∘ StepResult.muted = StepResult.row := by
    funext e
    simp only [Function.comp_apply, StepResult.muted]
    split <;> rfl
  have outputs : StepResult.failureOutput? ∘ StepResult.muted = StepResult.failureOutput? := by
    funext e
    simp only [Function.comp_apply, StepResult.muted]
    split
    · rename_i success
      rw [StepResult.failureOutput?_of_success success,
        StepResult.failureOutput?_of_success (e := e.bare) success]
    · rfl
  simp only [summary, muted, exitCode, List.map_map, List.filterMap_map, rows, outputs, List.length_map]

namespace Cli

open Console (printed printAll)
open Course

section Lines

variable (width : Nat)

def outputLines (output : Option String) : List (Except Fault String) :=
  output.toList.map fun text => printed width (Console.Markup.escape text)

theorem lastOutput_of_failing {r : Report} {last : StepResult}
    (at_end : r.stepResults.getLast? = some last) (failing : last.success = false) :
    lastOutput width r = outputLines width last.failureOutput? := by
  simp only [lastOutput, at_end, StepResult.failureOutput?, failing, StepResult.hasText, outputLines,
    List.any_cons, List.any_nil, Bool.or_false, Bool.not_false, Bool.true_and]
  split <;> rfl

theorem lastOutput_bare (r : Report) : lastOutput width r.bare = [] := by
  simp only [lastOutput, Report.bare, List.getLast?_map]
  cases r.stepResults.getLast? with
  | none => rfl
  | some last => simp [StepResult.bare]

theorem reportLines_congr {r r' : Report} (name : r.pipelineName = r'.pipelineName)
    (success : r.success = r'.success) (stepsRun : r.stepsRun = r'.stepsRun)
    (durationMs : r.durationMs = r'.durationMs) (failure : r.failure = r'.failure)
    (output : r'.success = false → lastOutput width r = lastOutput width r') (total : Nat) :
    reportLines width r total = reportLines width r' total := by
  unfold reportLines counts
  rw [name, success, stepsRun, durationMs, failure]
  cases ended : r'.success with
  | true => rfl
  | false => rw [output ended]

variable {ε : Type} {p : Pipeline} {runId : String} {replies : List (Reply ε)} {r : Report}

/-- What is printed about a run that failed: what is printed if nothing was captured, and the output
of the failing step. -/
theorem reportLines_of_failed {i : Nat} {s : Step} {cause : Failure} {reply : Reply ε}
    (failed : FailureAt p replies r i s cause) (coherent : Coherent p runId replies r)
    (answer : replies.getLast? = some reply) (total : Nat) :
    reportLines width r total =
      reportLines width r.bare total ++ outputLines width reply.captured := by
  obtain ⟨before, last, reply', split, -, -, failing, answer', -, entry⟩ := failed.parts coherent
  cases answer.symm.trans answer'
  have at_end : r.stepResults.getLast? = some last := by rw [split, List.getLast?_concat]
  have output : lastOutput width r = outputLines width reply.captured := by
    rw [lastOutput_of_failing width at_end failing, Summary.failureOutput_of_entry entry failing]
  have unsuccessful : r.bare.success = false := failed.success
  unfold reportLines counts
  rw [failed.success, unsuccessful, output, lastOutput_bare]
  simp only [Bool.false_eq_true, if_false, List.append_nil]
  rfl

/-- What is printed about a run says nothing of the output of commands that ended well. -/
theorem reportLines_muted (coherent : Coherent p runId replies r) (total : Nat) :
    reportLines width r.muted total = reportLines width r total := by
  refine @reportLines_congr width r.muted r rfl rfl rfl rfl rfl ?_ total
  intro unsuccessful
  rcases coherent.ended with success | ⟨i, s, cause, failed⟩
  · cases success.success.symm.trans unsuccessful
  · obtain ⟨before, last, reply, split, -, -, failing, -⟩ := failed.parts coherent
    have at_end : r.stepResults.getLast? = some last := by rw [split, List.getLast?_concat]
    have still : last.muted = last := by simp [StepResult.muted, failing]
    simp only [lastOutput, Report.muted, List.getLast?_map, at_end, Option.map_some, still]

end Lines

section Commands

variable {σ τ : Type} {R : σ → τ → Prop}

variable (R) in
/-- Two hosts, each with a state of its own, have executors that mirror each other and the same files,
as long as their states go together. -/
structure Host.Mirrors (host : Host σ) (host' : Host τ) : Prop where
  executor : ∀ capture, (host.executor capture).Mirrors R (host'.executor capture)
  world : ∀ {w v}, R w v → host.world w = host'.world v
  setWorld : ∀ {w v}, R w v → ∀ tree, R (host.setWorld tree w) (host'.setWorld tree v)

variable (R) in
/-- Two commands print, log, run and end the same, and the states that they leave go together. -/
structure Outcome.Mirrors (o : Outcome σ) (o' : Outcome τ) : Prop where
  stdout : o.stdout = o'.stdout
  records : o.records = o'.records
  executor : o.executor = o'.executor
  trace : o.trace = o'.trace
  exit : o.exit = o'.exit
  state : R o.state o'.state

theorem Outcome.printing_mirrors (lines : List (Except Fault String)) (exit : Exit)
    (records : List LogRecord) {w : σ} {v : τ} (related : R w v) :
    (printing lines exit records w).Mirrors R (printing lines exit records v) :=
  ⟨rfl, rfl, rfl, rfl, rfl, related⟩

theorem traceHooks_mirrors (width : Nat) :
    (traceHooks width : Hooks σ Fault).Mirrors R (traceHooks width : Hooks τ Fault) := by
  constructor
  case started => rfl
  case finished => rfl
  case start => exact fun related index s => ⟨_, _, _, rfl, rfl, related⟩
  case finish =>
    intro w v related r r' same
    obtain ⟨index, name, success⟩ := StepResult.muted_eq same
    refine ⟨_, _, _, rfl, ?_, related⟩
    simp only [Hooks.finish, traceHooks, index, name, success]

variable {host : Host σ} {host' : Host τ}

theorem afterRun_mirrors (mirrors : host.Mirrors R host') (around : Surroundings) (s : RunSettings)
    (p : Pipeline) {r r' : Report}
    (lines : reportLines around.width r p.size = reportLines around.width r' p.size)
    (summary : r.summary p around.timestamp = r'.summary p around.timestamp) {w : σ} {v : τ}
    (related : R w v) : ∃ text fault w' v', afterRun host around s p r w = (text, fault, w') ∧
      afterRun host' around s p r' v = (text, fault, v') ∧ R w' v' := by
  unfold afterRun
  rw [lines, summary, mirrors.world related]
  rcases printAll (reportLines around.width r' p.size) with ⟨text, _ | f⟩
  · cases s.report with
    | none => exact ⟨_, _, _, _, rfl, rfl, related⟩
    | some path => exact ⟨_, _, _, _, rfl, rfl, mirrors.setWorld related _⟩
  · exact ⟨_, _, _, _, rfl, rfl, related⟩

theorem execute_mirrors (mirrors : host.Mirrors R host') (around : Surroundings) (s : RunSettings)
    (p : Pipeline) (records : List LogRecord) {w : σ} {v : τ} (related : R w v) :
    (execute host around s p records w).Mirrors R (execute host' around s p records v) := by
  have run := run_mirrors (mirrors.executor s.capture) (traceHooks_mirrors around.width) p
    ⟨here (host.world w), around.environ⟩ around.runId related
  unfold execute
  rw [← mirrors.world related]
  simp only [← run.trace]
  rcases alike_of_map_eq run.outcome with ⟨e, one, other⟩ | ⟨r, r', one, other, same⟩
  · simp only [one, other]
    exact ⟨rfl, rfl, rfl, rfl, rfl, run.state⟩
  · obtain ⟨replies, -, coherent⟩ := coherent_of_reported one
    obtain ⟨replies', -, coherent'⟩ := coherent_of_reported other
    have lines : reportLines around.width r p.size = reportLines around.width r' p.size := by
      rw [← reportLines_muted _ coherent, same, reportLines_muted _ coherent']
    have summary : r.summary p around.timestamp = r'.summary p around.timestamp := by
      rw [← r.summary_muted, same, r'.summary_muted]
    have code : r.exitCode = r'.exitCode := congrArg Summary.exitCode summary
    obtain ⟨text, fault, w', v', after, after', left⟩ :=
      afterRun_mirrors mirrors around s p lines summary run.state
    simp only [one, other, after, after', code]
    exact ⟨rfl, rfl, rfl, rfl, rfl, left⟩

theorem runCommand_mirrors (mirrors : host.Mirrors R host') (around : Surroundings)
    (s : RunSettings) {w : σ} {v : τ} (related : R w v) :
    (runCommand host around s w).Mirrors R (runCommand host' around s v) := by
  unfold runCommand
  rw [← mirrors.world related]
  split
  · exact Outcome.printing_mirrors _ _ _ related
  · rcases resolve (host.world w) around s with ⟨resolution, records⟩
    cases resolution with
    | fault f => exact Outcome.printing_mirrors _ _ _ related
    | rejected message => exact Outcome.printing_mirrors _ _ _ related
    | found p =>
      simp only
      split
      · exact Outcome.printing_mirrors _ _ _ related
      · exact execute_mirrors mirrors around s p records related

theorem validateCommand_mirrors (mirrors : host.Mirrors R host') (around : Surroundings)
    (file : Option String) {w : σ} {v : τ} (related : R w v) :
    (validateCommand host around file w).Mirrors R (validateCommand host' around file v) := by
  unfold validateCommand
  rw [← mirrors.world related]
  simp only
  repeat' split
  all_goals exact Outcome.printing_mirrors _ _ _ related

theorem withSettings_mirrors {α : Type} (options : List (OptionSpec α)) (start : α)
    (args : List String) {go : α → Outcome σ} {go' : α → Outcome τ}
    (each : ∀ settings, (go settings).Mirrors R (go' settings)) {w : σ} {v : τ} (related : R w v) :
    (withSettings options start args w go).Mirrors R (withSettings options start args v go') := by
  unfold withSettings
  rcases readArgs options true args with e | ⟨effect, _ | ⟨operand, rest⟩⟩
  · exact Outcome.printing_mirrors _ _ _ related
  · exact each _
  · exact Outcome.printing_mirrors _ _ _ related

theorem withPaths_mirrors (paths : List String) {w : σ} {v : τ} {go : Outcome σ} {go' : Outcome τ}
    (goes : go.Mirrors R go') (related : R w v) :
    (withPaths paths w go).Mirrors R (withPaths paths v go') := by
  unfold withPaths
  split
  · exact Outcome.printing_mirrors _ _ _ related
  · exact goes

theorem command_mirrors (mirrors : host.Mirrors R host') (around : Surroundings) (name : String)
    (args : List String) {w : σ} {v : τ} (related : R w v) :
    (command host around name args w).Mirrors R (command host' around name args v) := by
  unfold command
  split
  · apply withSettings_mirrors _ _ _ _ related
    intro s
    split
    · exact Outcome.printing_mirrors _ _ _ related
    · exact withPaths_mirrors _ (runCommand_mirrors mirrors around s related) related
  · apply withSettings_mirrors _ _ _ _ related
    intro s
    split
    · exact Outcome.printing_mirrors _ _ _ related
    · exact withPaths_mirrors _ (validateCommand_mirrors mirrors around s.1 related) related
  · apply withSettings_mirrors _ _ _ _ related
    intro help
    split
    · exact Outcome.printing_mirrors _ _ _ related
    · exact Outcome.printing_mirrors _ _ _ related
  · exact Outcome.printing_mirrors _ _ _ related

/-- Whatever the arguments, the command line does the same on hosts that mirror each other. -/
theorem invoke_mirrors (mirrors : host.Mirrors R host') (around : Surroundings)
    (args : List String) {w : σ} {v : τ} (related : R w v) :
    (invoke host around args w).1.Mirrors R (invoke host' around args v).1 ∧
      (invoke host around args w).2 = (invoke host' around args v).2 := by
  unfold invoke
  cases readArgs options false args with
  | error e =>
    dsimp only
    exact ⟨Outcome.printing_mirrors _ _ _ related, rfl⟩
  | ok read =>
    obtain ⟨effect, operands⟩ := read
    dsimp only
    split
    · dsimp only
      exact ⟨Outcome.printing_mirrors _ _ _ related, rfl⟩
    · split
      · dsimp only
        exact ⟨Outcome.printing_mirrors _ _ _ related, rfl⟩
      · cases operands with
        | nil =>
          dsimp only
          exact ⟨runCommand_mirrors mirrors around _ related, rfl⟩
        | cons name rest =>
          dsimp only
          exact ⟨command_mirrors mirrors around name rest related, rfl⟩

end Commands

section Scripted

def scripted : Host (Script × World) where
  executor _ := {
    execute := fun command args c s =>
      let (reply, left) := Script.executor.execute command args c s.1
      (reply, left, s.2)
    announce := Script.executor.announce
    elapsedMs := fun before after => Script.executor.elapsedMs before.1 after.1 }
  world := Prod.snd
  setWorld tree s := (s.1, tree)

/-- Scripts that differ in the output of commands that end well, and in nothing else, beside the same
files. -/
def Scripted.Alike (s s' : Script × World) : Prop := s.1.muted = s'.1.muted ∧ s.2 = s'.2

theorem scripted_mirrors : scripted.Mirrors Scripted.Alike scripted := by
  constructor
  case executor =>
    intro capture
    constructor
    case announce => rfl
    case clock => exact fun same same' => Script.executor_mirrors.clock same.1 same'.1
    case execute =>
      intro s s' same command args c
      obtain ⟨reply, reply', left, left', replied, replied', answer, alike⟩ :=
        Script.executor_mirrors.execute same.1 command args c
      refine ⟨reply, reply', (left, s.2), (left', s'.2), ?_, ?_, answer, alike, same.2⟩
      · simp only [scripted, replied]
      · simp only [scripted, replied']
  case world => exact fun same => same.2
  case setWorld => exact fun same tree => ⟨same.1, rfl⟩

end Scripted

section Failing

variable {σ : Type}

/-- What is told of the export of a report, if that is asked for. -/
def Exported (width : Nat) (s : RunSettings) (summary : Summary) (told : String) : Prop :=
  told = "" ∨ ∃ path w, s.report = some path ∧
    told = (printAll [(exportReport width w summary (Path.ofString path)).2]).1

theorem afterRun_told (host : Host σ) (around : Surroundings) (s : RunSettings) (p : Pipeline)
    (r : Report) (w : σ) :
    ∃ told, (afterRun host around s p r w).1 =
        (printAll (reportLines around.width r p.size)).1 ++ told ∧
      Exported around.width s (r.summary p around.timestamp) told := by
  unfold afterRun
  rcases printAll (reportLines around.width r p.size) with ⟨text, _ | f⟩
  · cases asked : s.report with
    | none => exact ⟨"", String.append_empty.symm, .inl rfl⟩
    | some path => exact ⟨_, rfl, .inr ⟨path, _, asked, rfl⟩⟩
  · exact ⟨"", String.append_empty.symm, .inl rfl⟩

theorem execute_told {host : Host σ} {around : Surroundings} {s : RunSettings} {p : Pipeline}
    {state : σ} {r : Report} (records : List LogRecord)
    (reported : (p.run (host.executor s.capture) (traceHooks around.width)
      (baseOf host around state) around.runId state).outcome = .ok r) :
    ∃ told, (execute host around s p records state).stdout =
        traceText around.width p (execute host around s p records state).trace ++
          (printAll (reportLines around.width r p.size)).1 ++ told ∧
      Exported around.width s (r.summary p around.timestamp) told := by
  unfold baseOf at reported
  unfold execute
  simp only [reported]
  obtain ⟨told, text, exported⟩ := afterRun_told host around s p r
    (p.run (host.executor s.capture) (traceHooks around.width)
      ⟨here (host.world state), around.environ⟩ around.runId state).state
  exact ⟨told, by rw [text, String.append_assoc], exported⟩

/-- What is shown of a run that failed, but for its trace: what would be shown if nothing had been
captured, and the output of the step that has the failing answer. -/
structure Confined {ε : Type} (p : Pipeline) (width : Nat) (timestamp : String) (r : Report)
    (reply : Reply ε) : Prop where
  failing : ∃ (i : Nat) (s : Step) (cause : Failure), p.steps[i]? = some s ∧
    r.failedIndex = some (i : Int) ∧ FailureOf i s reply cause
  lines : reportLines width r p.size =
    reportLines width r.bare p.size ++ outputLines width reply.captured
  summary : r.summary p timestamp =
    { r.bare.summary p timestamp with failureOutput := reply.captured }

theorem confined_of_failed {ε : Type} {p : Pipeline} {runId : String} {replies : List (Reply ε)}
    {r : Report} {i : Nat} {s : Step} {cause : Failure} (failed : FailureAt p replies r i s cause)
    (coherent : Coherent p runId replies r) (width : Nat) (timestamp : String) :
    ∃ reply, replies.getLast? = some reply ∧ Confined p width timestamp r reply := by
  obtain ⟨before, last, reply, -, -, -, -, answer, failure, -⟩ := failed.parts coherent
  refine ⟨reply, answer, ⟨i, s, cause, failed.inside, failed.failedIndex, failure⟩,
    reportLines_of_failed width failed coherent answer _, ?_⟩
  have output := Summary.output_of_failed failed coherent answer timestamp
  have rows : StepResult.row ∘ StepResult.bare = StepResult.row := rfl
  rw [← output]
  simp only [Report.summary, Report.bare, Report.exitCode, List.map_map, rows, List.length_map]

end Failing

section Claim

variable {σ τ : Type} {R : σ → τ → Prop} {host : Host σ} {host' : Host τ}

/-- What commands that ended well wrote is not heard of. On hosts that differ in that output and in
nothing else, a command line with whatever arguments prints, logs, runs and ends the same and leaves
the same files. If a run fails, what is shown of captured output on the console and in the summary is
that of the step that failed. -/
theorem successes_unheard (mirrors : host.Mirrors R host') (around : Surroundings)
    (args : List String) {w : σ} {v : τ} (related : R w v) :
    let o := (invoke host around args w).1
    let o' := (invoke host' around args v).1
    (o.stdout = o'.stdout ∧ o.stderr (invoke host around args w).2 =
        o'.stderr (invoke host' around args v).2 ∧ o.exit = o'.exit ∧ o.trace = o'.trace ∧
      host.world o.state = host'.world o'.state) ∧
    ∀ verbose s p r, Asks args verbose s → (s.check && s.fix) = false →
      (resolve (host.world w) around s).1 = .found p → s.dryRun = false →
      (p.run (host.executor s.capture) (traceHooks around.width) (baseOf host around w) around.runId
        w).outcome = .ok r → r.success = false →
      ∃ replies reply told, Answers (host.executor s.capture) (traceHooks around.width)
          (p.baseContext (baseOf host around w)) 0 p.steps w replies ∧
        replies.getLast? = some reply ∧ Confined p around.width around.timestamp r reply ∧
        o.stdout = traceText around.width p o.trace ++
          (printAll (reportLines around.width r p.size)).1 ++ told ∧
        Exported around.width s (r.summary p around.timestamp) told := by
  intro o o'
  obtain ⟨same, setup⟩ := invoke_mirrors mirrors around args related
  constructor
  · have stderr : o.stderr (invoke host around args w).2 =
        o'.stderr (invoke host' around args v).2 := by
      simp only [Outcome.stderr, setup, o, o', same.records]
    exact ⟨same.stdout, stderr, same.exit, same.trace, mirrors.world same.state⟩
  · intro verbose s p r asks mode resolved executes reported unsuccessful
    obtain ⟨replies, answers, coherent⟩ := coherent_of_reported reported
    rcases coherent.ended with success | ⟨i, step, cause, failed⟩
    · cases success.success.symm.trans unsuccessful
    · obtain ⟨reply, answer, confined⟩ := confined_of_failed failed coherent around.width
        around.timestamp
      obtain ⟨told, text, exported⟩ := execute_told (resolve (host.world w) around s).2
        reported
      refine ⟨replies, reply, told, answers, answer, confined, ?_, exported⟩
      simp only [o, asks.invoke_eq, runCommand_eq_execute mode resolved executes]
      exact text

/-- The first command ends well and writes something or nothing, the second fails and writes. -/
def secondFails (first : Option String) : Script × World :=
  (⟨0, [⟨.ok 1, .completed ⟨0, first, first, 1000⟩⟩,
    ⟨.ok 0.5, .completed ⟨100, some "...", none, 500⟩⟩]⟩, ⟨[], []⟩)

/-- The built-in pipeline with output captured: only what the second command wrote is heard. -/
theorem successes_unheard_second :
    let p := Preset.rust .fix Preset.nativePackages
    let args := ["run", "--capture", "--report", "r.md", "--preset", "rust"]
    let o := (invoke scripted .bare args (secondFails (some "noise"))).1
    let o' := (invoke scripted .bare args (secondFails none)).1
    o.stdout = o'.stdout ∧ o.exit = o'.exit ∧ o.trace = o'.trace ∧
      scripted.world o.state = scripted.world o'.state ∧
      ∃ (r : Report) (told : String), r.success = false ∧ o.stdout = traceText 80 p o.trace ++
        (printAll (reportLines 80 r.bare p.size ++
          outputLines 80 (some "STDOUT:\n..."))).1 ++ told := by
  intro p
  have preset : Reads RunSettings.options true ["--preset", "rust"] _ [] :=
    .value (by decide) (by decide) rfl
  have report : Reads RunSettings.options true ["--report", "r.md", "--preset", "rust"] _ [] :=
    .option (by decide) (by decide) rfl preset
  have capture : Reads RunSettings.options true
      ["--capture", "--report", "r.md", "--preset", "rust"] _ [] :=
    .option (by decide) (by decide) rfl report
  have asks : Asks ["run", "--capture", "--report", "r.md", "--preset", "rust"] false
      (rustSettings true (some "r.md")) :=
    .intro (.command _ (by decide) (by decide) rfl) rfl capture rfl (by decide)
  have ends : ((p.run (scripted.executor true) (traceHooks 80) ⟨⟨.slash, []⟩, ∅⟩ ""
      (secondFails (some "noise"))).outcome.toOption.map fun r =>
        (r.success, (r.summary p "").failureOutput)) = some (false, some "STDOUT:\n...") := by
    decide +kernel
  generalize reported : (p.run (scripted.executor true) (traceHooks 80) ⟨⟨.slash, []⟩, ∅⟩ ""
    (secondFails (some "noise"))).outcome = outcome at ends
  rcases outcome with _ | r
  · cases ends
  obtain ⟨unsuccessful, output⟩ := Prod.mk.inj (Option.some.inj ends)
  obtain ⟨⟨stdout, -, exit, trace, world⟩, shown⟩ :=
    successes_unheard scripted_mirrors .bare _
      (⟨rfl, rfl⟩ : Scripted.Alike (secondFails (some "noise")) (secondFails none))
  obtain ⟨replies, reply, told, -, -, confined, text, -⟩ :=
    shown _ _ p r asks rfl rfl rfl reported unsuccessful
  have captured : reply.captured = some "STDOUT:\n..." := by
    have summary : r.summary p "" = _ := confined.summary
    rw [summary] at output
    exact output
  refine ⟨stdout, exit, trace, world, r, told, unsuccessful, ?_⟩
  have lines : reportLines 80 r p.size = _ := confined.lines
  rw [← captured]
  exact lines ▸ text

end Claim

end Cli

end Stepwise
