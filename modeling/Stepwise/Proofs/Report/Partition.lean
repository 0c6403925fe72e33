import Stepwise.Proofs.CommandLine.RoundTrip
import Stepwise.Proofs.Run.Coherence
import Stepwise.Report.Summary

/-! What a summary says of a pipeline. Its rows are the executed steps and what it lists besides are
the steps that were not run, so together they are all steps, each once and in order. The output that
it shows is that of the step at which the run failed. -/
namespace Stepwise

def Completion.Wrote (c : Completion) : Prop :=
  (∃ text, c.stdout = some text ∧ text ≠ "") ∨ ∃ text, c.stderr = some text ∧ text ≠ ""

def Reply.captured {ε : Type} (reply : Reply ε) : Option String :=
  reply.completion?.bind fun c =>
    if StepResult.hasText c.stdout || StepResult.hasText c.stderr then
      some (Output.format c.stdout c.stderr none)
    else none

namespace StepResult

theorem hasText_iff (output : Option String) :
    hasText output = true ↔ ∃ text, output = some text ∧ text ≠ "" := by
  cases output with
  | none => simp [hasText]
  | some text => simp [hasText]

theorem failureOutput?_of_success {e : StepResult} (h : e.success = true) :
    e.failureOutput? = none := by
  simp [failureOutput?, h]

end StepResult

theorem Reply.captured_eq_some {ε : Type} {reply : Reply ε} {text : String} :
    reply.captured = some text ↔ ∃ c, reply = .completed c ∧ c.Wrote ∧
      text = Output.format c.stdout c.stderr none := by
  cases reply with
  | completed c =>
    simp only [captured, completion?, Option.bind_some, Option.ite_none_right_eq_some, Bool.or_eq_true,
      StepResult.hasText_iff, Option.some.injEq, completed.injEq, exists_eq_left', Completion.Wrote]
    exact and_congr_right fun _ => eq_comm
  | unstartable own command reason => simp [captured, completion?]
  | crashed e => simp [captured, completion?]

namespace Course

section Failing

variable {ε : Type} {p : Pipeline} {runId : String} {replies : List (Reply ε)} {r : Report}
  {i : Nat} {s : Step} {cause : Failure}

/-- The step at which a run fails is the last that it comes to: it has the last answer and the last
result, and those before it ended well. -/
theorem FailureAt.parts (failed : FailureAt p replies r i s cause)
    (coherent : Coherent p runId replies r) :
    ∃ before last reply, r.stepResults = before ++ [last] ∧ before.length = i ∧
      (∀ e ∈ before, Well e) ∧ last.success = false ∧ replies.getLast? = some reply ∧
      FailureOf i s reply cause ∧ Entry i s reply last := by
  obtain ⟨last, place, unsuccessful, -⟩ := failed.last
  obtain ⟨reply, answer, failure⟩ := failed.answer
  obtain ⟨t, given, inside, answer', entry⟩ := coherent.entries i last place
  cases failed.inside.symm.trans inside
  cases answer.symm.trans answer'
  have split : r.stepResults = r.stepResults.take i ++ [last] := by
    obtain ⟨inRange, here⟩ := List.getElem?_eq_some_iff.mp place
    rw [← here, List.take_append_getElem, ← failed.results, List.take_length]
  refine ⟨_, last, reply, split, ?_, failed.well, unsuccessful, ?_, failure, entry⟩
  · simp [failed.results]
  · rw [List.getLast?_eq_getElem?, coherent.answered, failed.results, Nat.add_sub_cancel, answer]

end Failing

end Course

namespace Summary

open Course

/-- A summary and the pipeline whose run it sums up, with the answers that were given to its steps:
the rows are the steps that were executed and the others follow. -/
structure Partition {ε : Type} (p : Pipeline) (replies : List (Reply ε)) (s : Summary) : Prop where
  names : s.steps.map SummaryRow.name ++ s.notRun = p.steps.map Step.name
  answered : replies.length = s.steps.length
  total : s.totalSteps = s.steps.length + s.notRun.length
  commands : s.steps.map (fun row => CommandLine.split row.command) =
    (p.steps.take s.steps.length).map fun step => .ok step.command
  complete : s.success = true → s.notRun = [] ∧ ∀ row ∈ s.steps, row.success = true
  cut : s.success = false → (s.steps.length : Int) = s.stepsRun + 1 ∧
    ∃ rows last, s.steps = rows ++ [last] ∧ last.success = false ∧ ∀ row ∈ rows, row.success = true
  error : s.error = none ↔ s.success = true
  exitCode : s.exitCode = 0 ↔ s.success = true
  /-- The output is that of the step that has the last answer, if that step failed and wrote
  something. -/
  output : ∀ text, s.failureOutput = some text ↔ s.success = false ∧
    ∃ c, replies.getLast? = some (.completed c) ∧ c.Wrote ∧
      text = Output.format c.stdout c.stderr none

section Parts

variable {ε : Type} {p : Pipeline} {runId : String} {replies : List (Reply ε)} {r : Report}

theorem named_of_coherent (coherent : Coherent p runId replies r) :
    r.stepResults.map (fun e => (e.name, e.command)) =
      (p.steps.take r.stepResults.length).map fun s => (s.name, s.command) := by
  apply List.ext_getElem?
  intro j
  rw [List.getElem?_map, List.getElem?_map]
  by_cases inRange : j < r.stepResults.length
  · obtain ⟨s, reply, step, -, entry⟩ := coherent.entries j _ (List.getElem?_eq_getElem inRange)
    rw [List.getElem?_take_of_lt inRange, step, List.getElem?_eq_getElem inRange]
    simp [entry.name_eq, entry.command_eq]
  · have outside : r.stepResults.length ≤ j := Nat.le_of_not_lt inRange
    have taken : (p.steps.take r.stepResults.length).length ≤ j := by
      rw [List.length_take]
      omega
    rw [List.getElem?_eq_none outside, List.getElem?_eq_none taken]
    rfl

theorem forall_results_iff (coherent : Coherent p runId replies r)
    (holds : String → List String → Prop) :
    (∀ e ∈ r.stepResults, holds e.name e.command) ↔
      ∀ s ∈ p.steps.take r.stepResults.length, holds s.name s.command := by
  have pairs := congrArg (fun xs : List (String × List String) => ∀ x ∈ xs, holds x.1 x.2)
    (named_of_coherent coherent)
  simpa only [List.forall_mem_map, eq_iff_iff] using pairs

theorem failureOutput_of_well {es : List StepResult} (well : ∀ e ∈ es, Well e) :
    es.filterMap StepResult.failureOutput? = [] := by
  rw [List.filterMap_eq_nil_iff]
  intro e inside
  exact StepResult.failureOutput?_of_success (well e inside).success

theorem failureOutput_append {before : List StepResult} (well : ∀ e ∈ before, Well e)
    (last : StepResult) :
    ((before ++ [last]).filterMap StepResult.failureOutput?).getLast? = last.failureOutput? := by
  rw [List.filterMap_append, failureOutput_of_well well, List.nil_append, List.filterMap_cons]
  cases last.failureOutput? <;> rfl

theorem failureOutput_of_entry {i : Nat} {s : Step} {reply : Reply ε} {e : StepResult}
    (entry : Entry i s reply e) (failing : e.success = false) :
    e.failureOutput? = reply.captured := by
  simp only [StepResult.failureOutput?, failing, entry.stdout_eq, entry.stderr_eq, Reply.captured]
  cases reply.completion? <;> simp [StepResult.hasText]

theorem output_of_failed {i : Nat} {s : Step} {cause : Failure} {reply : Reply ε}
    (failed : FailureAt p replies r i s cause) (coherent : Coherent p runId replies r)
    (answer : replies.getLast? = some reply) (timestamp : String) :
    (r.summary p timestamp).failureOutput = reply.captured := by
  obtain ⟨before, last, reply', split, -, well, failing, answer', -, entry⟩ := failed.parts coherent
  cases answer.symm.trans answer'
  show (r.stepResults.filterMap StepResult.failureOutput?).getLast? = _
  rw [split, failureOutput_append well, failureOutput_of_entry entry failing]

theorem output_of_coherent (coherent : Coherent p runId replies r) (timestamp text : String) :
    (r.summary p timestamp).failureOutput = some text ↔ r.success = false ∧
      ∃ c, replies.getLast? = some (.completed c) ∧ c.Wrote ∧
        text = Output.format c.stdout c.stderr none := by
  rcases coherent.ended with success | ⟨i, s, cause, failed⟩
  · show (r.stepResults.filterMap StepResult.failureOutput?).getLast? = some text ↔ _
    rw [failureOutput_of_well success.well, success.success]
    simp
  · obtain ⟨before, last, reply, -, -, -, -, answer, -⟩ := failed.parts coherent
    rw [output_of_failed failed coherent answer, Reply.captured_eq_some, answer]
    simp [failed.success]

theorem exitCode_of_coherent (coherent : Coherent p runId replies r) :
    r.exitCode = 0 ↔ r.success = true := by
  rcases coherent.ended with success | ⟨i, s, cause, failed⟩
  · simp [success.exitCode, success.success]
  · have bounds := failed.exitCode
    simp only [failed.success, Bool.false_eq_true, iff_false]
    omega

theorem error_of_coherent (coherent : Coherent p runId replies r) (timestamp : String) :
    (r.summary p timestamp).error = none ↔ r.success = true := by
  show r.failure.map Failure.message = none ↔ _
  rcases coherent.ended with success | ⟨i, s, cause, failed⟩
  · simp [success.failure, success.success]
  · simp [failed.failure, failed.success]

end Parts

/-- The summary of a run tells of each step of the pipeline once and in order: first those that were
executed, then the others. It has an error, steps that were not run or another exit code than zero
only if the run failed, and then the last row is that of the step that failed and the output is what
that step wrote. -/
theorem summary_partition {σ ε : Type} (ex : Executor σ ε) (hooks : Hooks σ ε) (base : Context)
    (p : Pipeline) (runId timestamp : String) (w : σ) (r : Report)
    (reported : (p.run ex hooks base runId w).outcome = .ok r) :
    ∃ replies, Answers ex hooks (p.baseContext base) 0 p.steps w replies ∧
      Partition p replies (r.summary p timestamp) := by
  obtain ⟨replies, answers, coherent⟩ := coherent_of_reported reported
  have named := named_of_coherent coherent
  refine ⟨replies, answers, ?_⟩
  constructor
  case names =>
    have names := congrArg (List.map Prod.fst) named
    simp only [List.map_map, Function.comp_def] at names
    show (r.stepResults.map StepResult.row).map SummaryRow.name ++ _ = _
    rw [List.map_map, show SummaryRow.name ∘ StepResult.row = StepResult.name from rfl, names]
    simp only [Report.summary]
    rw [← List.map_append, List.take_append_drop]
  case answered => simpa [Report.summary] using coherent.answered
  case total =>
    have inside := congrArg List.length named
    simp only [List.length_map, List.length_take] at inside
    simp only [Report.summary, Pipeline.size, List.length_map, List.length_drop]
    omega
  case commands =>
    have read := congrArg (List.map fun e => (Except.ok e.2 : Except CommandLine.SplitError _)) named
    simp only [List.map_map, Function.comp_def] at read
    show (r.stepResults.map StepResult.row).map _ = _
    rw [List.map_map]
    simp only [Function.comp_def, StepResult.row, CommandLine.split_join, read, Report.summary,
      List.length_map]
  case complete =>
    intro complete
    rcases coherent.ended with success | ⟨i, s, cause, failed⟩
    · refine ⟨?_, List.forall_mem_map.mpr fun e inside => (success.well e inside).success⟩
      simp [Report.summary, success.results, Pipeline.size]
    · cases failed.success.symm.trans complete
  case cut =>
    intro cut
    rcases coherent.ended with success | ⟨i, s, cause, failed⟩
    · cases success.success.symm.trans cut
    · obtain ⟨before, last, reply, split, length, well, failing, -⟩ := failed.parts coherent
      refine ⟨?_, before.map StepResult.row, last.row, ?_, failing, ?_⟩
      · simp [Report.summary, failed.results, failed.stepsRun]
      · simp [Report.summary, split]
      · exact List.forall_mem_map.mpr fun e inside => (well e inside).success
  case error => exact error_of_coherent coherent timestamp
  case exitCode => exact exitCode_of_coherent coherent
  case output => exact output_of_coherent coherent timestamp

/-- A build that fails at its first step: the second one is listed as not run. -/
theorem summary_partition_first :
    let replies : List (Reply Unit) := [.completed ⟨2, some "", some "boom", 0⟩]
    ∃ r, ∃ given : List (Reply Unit),
      (build.run listed .silent source "run" replies).outcome = .ok r ∧
      Partition build given (r.summary build "now") ∧
      (r.summary build "now").steps.map SummaryRow.name = ["make"] ∧
      (r.summary build "now").notRun = ["make test"] ∧
      (r.summary build "now").failureOutput = some "STDERR:\nboom" := by
  intro replies
  obtain ⟨given, -, partition⟩ := summary_partition listed .silent source build "run" "now" replies _
    rfl
  exact ⟨_, given, rfl, partition, by decide, by decide, by decide⟩

end Summary

end Stepwise
