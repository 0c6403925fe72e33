import Stepwise.Proofs.Run.Coherence

/-! The exit code of a run, read off the last answer of its executor. All answers before it end
well, so it is that of the step that fails, if one does. -/
namespace Stepwise

section Answer

variable {ε : Type}

/-- The code that an answer makes the process end with: its own where that is one of a process, 128
and the number of the signal that killed the command, and one for everything else. -/
inductive Reply.ExitsWith : Reply ε → Int → Prop where
  | well {c : Completion} (zero : c.exitCode = 0) : ExitsWith (.completed c) 0
  | own {c : Completion} (positive : 0 < c.exitCode) (fits : c.exitCode ≤ 255) :
      ExitsWith (.completed c) c.exitCode
  | killed {c : Completion} (signal : Int) (positive : 0 < signal) (fits : signal < 128)
      (code : c.exitCode = -signal) : ExitsWith (.completed c) (128 + signal)
  | beyond {c : Completion} (out : 255 < c.exitCode ∨ c.exitCode ≤ -128) :
      ExitsWith (.completed c) 1
  | unstartable (index : Option Int) (command : List String) (reason : String) :
      ExitsWith (.unstartable index command reason) 1

theorem Reply.ExitsWith.bounds {reply : Reply ε} {code : Int} (h : reply.ExitsWith code) :
    0 ≤ code ∧ code ≤ 255 := by
  cases h <;> omega

theorem Reply.ExitsWith.unique {reply : Reply ε} {code code' : Int} (h : reply.ExitsWith code)
    (h' : reply.ExitsWith code') : code = code' := by
  cases h <;> cases h' <;> omega

theorem Reply.exitsWith_zero {reply : Reply ε} :
    reply.ExitsWith 0 ↔ ∃ c, reply = .completed c ∧ c.exitCode = 0 := by
  constructor
  · intro h
    generalize code : (0 : Int) = n at h
    cases h with
    | well zero => exact ⟨_, rfl, zero⟩
    | own positive fits => omega
    | killed signal positive fits same => omega
    | beyond out => omega
    | unstartable index command reason => omega
  · rintro ⟨c, rfl, zero⟩
    exact .well zero

theorem Course.FailureOf.exitsWith {index : Nat} {s : Step} {reply : Reply ε} {cause : Failure}
    (h : FailureOf index s reply cause) : reply.ExitsWith (Report.failureExitCode (some cause)) := by
  rcases h with ⟨c, rfl, nonzero, rfl⟩ | ⟨own, command, reason, rfl, rfl⟩
  · simp only [Report.failureExitCode, Report.fallbackExitCode]
    split
    · rename_i fits
      exact .own fits.1 (by omega)
    · split
      · rename_i signal
        have killed : (128 : Int) - c.exitCode = 128 + -c.exitCode := by omega
        rw [killed]
        exact .killed (-c.exitCode) (by omega) (by omega) (by omega)
      · exact .beyond (by omega)
  · exact .unstartable own command reason

end Answer

namespace Course

section Law

variable {σ ε : Type}

/-- The code of a run as its answers have it. The last answer gives the code, all others end well,
and the code is zero if every step of the pipeline was answered and ended well. -/
structure ExitsBy (p : Pipeline) (replies : List (Reply ε)) (code : Int) : Prop where
  earlier : ∀ reply ∈ replies.dropLast, reply.ExitsWith 0
  last : ∃ reply, replies.getLast? = some reply ∧ reply.ExitsWith code
  whole : code = 0 ↔ replies.length = p.size ∧ ∀ reply ∈ replies, reply.ExitsWith 0

variable {p : Pipeline} {runId : String} {replies : List (Reply ε)} {r : Report}

theorem Success.exitsBy (h : Success p replies r) (answered : replies.length = r.stepResults.length) :
    ExitsBy p replies r.exitCode := by
  have zero : ∀ reply ∈ replies, reply.ExitsWith 0 := fun reply member =>
    Reply.exitsWith_zero.mpr (h.answers reply member)
  have count : replies.length = p.size := answered.trans h.results
  have some_step : replies ≠ [] := by
    rintro rfl
    exact p.nonempty (List.length_eq_zero_iff.mp count.symm)
  rw [h.exitCode]
  refine ⟨fun reply member => zero reply (List.dropLast_subset replies member), ?_, ?_⟩
  · exact ⟨_, List.getLast?_eq_some_getLast some_step, zero _ (List.getLast_mem some_step)⟩
  · exact ⟨fun _ => ⟨count, zero⟩, fun _ => rfl⟩

theorem FailureAt.earlier {i : Nat} {s : Step} {cause : Failure}
    (h : FailureAt p replies r i s cause)
    (entries : ∀ j e, r.stepResults[j]? = some e →
      ∃ s reply, p.steps[j]? = some s ∧ replies[j]? = some reply ∧ Entry j s reply e)
    {j : Nat} {reply : Reply ε} (before : j < i) (place : replies[j]? = some reply) :
    reply.ExitsWith 0 := by
  have inside : j < r.stepResults.length := by
    have count := h.results
    omega
  obtain ⟨s', reply', -, place', entry⟩ := entries j _ (List.getElem?_eq_getElem inside)
  obtain rfl : reply = reply' := Option.some.inj (place.symm.trans place')
  have well := h.well r.stepResults[j] (List.mem_take_iff_getElem.mpr ⟨j, by omega, rfl⟩)
  have code := entry.exitCode_eq
  rw [well.exitCode] at code
  cases reply with
  | completed c => exact .well (Option.some.inj code).symm
  | unstartable index command reason => cases code
  | crashed e => cases code

theorem FailureAt.exitsBy {i : Nat} {s : Step} {cause : Failure}
    (h : FailureAt p replies r i s cause) (answered : replies.length = r.stepResults.length)
    (entries : ∀ j e, r.stepResults[j]? = some e →
      ∃ s reply, p.steps[j]? = some s ∧ replies[j]? = some reply ∧ Entry j s reply e) :
    ExitsBy p replies r.exitCode := by
  obtain ⟨reply, place, failure⟩ := h.answer
  have count : replies.length = i + 1 := answered.trans h.results
  have code : r.exitCode = Report.failureExitCode (some cause) := by
    simp [Report.exitCode, Report.exitCodeOf, h.success, h.failure]
  have exits : reply.ExitsWith r.exitCode := code ▸ failure.exitsWith
  have nonzero := h.exitCode.1
  refine ⟨?_, ⟨reply, ?_, exits⟩, ?_⟩
  · intro other member
    obtain ⟨j, short, rfl⟩ := List.mem_iff_getElem.mp member
    rw [List.length_dropLast] at short
    rw [List.getElem_dropLast]
    exact h.earlier entries (by omega) (List.getElem?_eq_getElem (by omega))
  · rw [List.getLast?_eq_getElem?, count]
    exact place
  · constructor
    · omega
    · rintro ⟨-, zero⟩
      have well := zero reply (List.mem_of_getElem? place)
      exact exits.unique well

theorem Coherent.exitsBy (h : Coherent p runId replies r) : ExitsBy p replies r.exitCode := by
  rcases h.ended with success | ⟨i, s, cause, failure⟩
  · exact success.exitsBy h.answered
  · exact failure.exitsBy h.answered h.entries

end Law

end Course

end Stepwise
