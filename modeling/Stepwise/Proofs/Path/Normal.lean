import Stepwise.Path

/-! Normal paths: no name in them is empty, a single dot, or has a slash in it. Reading a text gives
one, and joining keeps it. -/
namespace Stepwise

theorem Text.mem_splitWhere {p : Char → Bool} {cs piece : List Char} (h : piece ∈ splitWhere p cs) :
    ∀ c ∈ piece, p c = false := by
  induction cs generalizing piece with
  | nil =>
    obtain rfl : piece = [] := by simpa [splitWhere] using h
    simp
  | cons c cs ih =>
    unfold splitWhere at h
    by_cases hc : p c
    · rw [if_pos hc] at h
      rcases List.mem_cons.mp h with rfl | later
      · simp
      · exact ih later
    · rw [if_neg hc] at h
      split at h
      · obtain rfl : piece = [c] := by simpa using h
        simpa using hc
      · rename_i first others split
        rcases List.mem_cons.mp h with rfl | later
        · have member : first ∈ splitWhere p cs := split ▸ List.mem_cons_self
          simpa [hc] using ih member
        · exact ih (split ▸ List.mem_cons_of_mem _ later)

namespace Path

theorem ofString_normal (s : String) : (ofString s).Normal := by
  intro name member
  obtain ⟨inside, step⟩ := List.mem_filter.mp member
  obtain ⟨piece, split, rfl⟩ := List.mem_map.mp inside
  simp only [isStep, Bool.and_eq_true, decide_eq_true_eq] at step
  refine ⟨step.1, step.2, ?_⟩
  intro slash
  rw [String.toList_ofList] at slash
  simpa using Text.mem_splitWhere split '/' slash

theorem Normal.join {p q : Path} (hp : p.Normal) (hq : q.Normal) : (p / q).Normal := by
  show (p.join q).Normal
  unfold Path.join
  split
  · exact hq
  · intro name member
    rcases List.mem_append.mp member with left | right
    · exact hp name left
    · exact hq name right

theorem isAbsolute_join (p q : Path) : (p / q).isAbsolute = (p.isAbsolute || q.isAbsolute) := by
  show (p.join q).isAbsolute = _
  by_cases h : q.isAbsolute
  · simp [Path.join, h]
  · have relative : q.root = .here := by simpa [isAbsolute] using h
    simp [Path.join, isAbsolute, relative]

end Path

theorem Directory.toPath_normal (d : Directory) : d.toPath.Normal := by
  cases d with
  | text s => exact Path.ofString_normal s
  | path p normal => exact normal

end Stepwise
