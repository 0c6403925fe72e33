import Stepwise.Proofs.Path.Normal
import Stepwise.Proofs.Text.Lines

/-! The texts of paths. A normal path can be read back from its text, since its names are told apart
by the slashes between them and its root by those in front. -/
namespace Stepwise.Path

section Names

theorem names_slash (s : String) : names ("/" ++ s) = "" :: names s := by
  have text : ("/" ++ s).toList = '/' :: s.toList := by simp
  simp [names, Text.splitAt, text, Text.splitWhere]

theorem names_intercalate {parts : List String} (some : parts ≠ [])
    (each : ∀ part ∈ parts, '/' ∉ part.toList) : names ("/".intercalate parts) = parts := by
  induction parts with
  | nil => exact absurd rfl some
  | cons part parts ih =>
    obtain ⟨first, others⟩ := List.forall_mem_cons.mp each
    have single : Text.splitAt '/' part.toList = [part.toList] := by
      apply Text.splitWhere_of_none
      intro c member
      have apart : c ≠ '/' := fun same => first (same ▸ member)
      simpa using apart
    cases parts with
    | nil =>
      rw [String.intercalate_singleton, names, single]
      simp
    | cons next parts =>
      have text : ("/".intercalate (part :: next :: parts)).toList =
          part.toList ++ '/' :: ("/".intercalate (next :: parts)).toList := by
        simp [String.intercalate_cons_cons]
      have rest : names ("/".intercalate (next :: parts)) = next :: parts :=
        ih (List.cons_ne_nil _ _) others
      unfold names Text.splitAt at rest single ⊢
      rw [text, Text.splitWhere_parted (by decide), single, List.map_append, rest]
      simp

end Names

section Roots

theorem steps_root (r : Root) (s : String) :
    (names (r.text ++ s)).filter isStep = (names s).filter isStep := by
  cases r with
  | here => rw [Root.text, String.empty_append]
  | slash =>
    rw [Root.text, names_slash]
    rfl
  | twoSlashes =>
    have text : Root.text .twoSlashes ++ s = "/" ++ ("/" ++ s) := by
      rw [← String.append_assoc]
      rfl
    rw [text, names_slash, names_slash]
    rfl

theorem ofChars_text (r : Root) {cs : List Char} (apart : cs.head? ≠ some '/') :
    Root.ofChars (r.text.toList ++ cs) = r := by
  cases cs with
  | nil => cases r <;> rfl
  | cons c cs =>
    have other : c ≠ '/' := by simpa using apart
    cases r with
    | here =>
      show Root.ofChars (c :: cs) = .here
      simp [Root.ofChars, other]
    | slash =>
      show Root.ofChars ('/' :: c :: cs) = .slash
      simp [Root.ofChars, other]
    | twoSlashes =>
      show Root.ofChars ('/' :: '/' :: c :: cs) = .twoSlashes
      simp [Root.ofChars, other]

theorem isAbsolute_ofString (s : String) :
    (ofString s).isAbsolute = decide (s.toList.head? = some '/') := by
  show decide (Root.ofChars s.toList ≠ .here) = _
  cases text : s.toList with
  | nil => rfl
  | cons c cs =>
    by_cases slash : c = '/'
    · subst slash
      unfold Root.ofChars
      split <;> simp_all
    · simp [Root.ofChars, slash]

end Roots

theorem head?_intercalate {part : String} (filled : part ≠ "") (parts : List String) :
    ("/".intercalate (part :: parts)).toList.head? = part.toList.head? := by
  have some : part.toList ≠ [] := fun empty => filled (String.toList_eq_nil_iff.mp empty)
  cases parts with
  | nil => rw [String.intercalate_singleton]
  | cons next parts =>
    rw [String.intercalate_cons_cons, String.append_assoc, String.toList_append,
      List.head?_append_of_ne_nil _ some]

theorem ofString_toString {p : Path} (normal : p.Normal) : ofString p.toString = p := by
  obtain ⟨root, parts⟩ := p
  cases parts with
  | nil => cases root <;> decide
  | cons part parts =>
    have text : toString ⟨root, part :: parts⟩ = root.text ++ "/".intercalate (part :: parts) := by
      simp [toString]
    have slashless : ∀ name ∈ part :: parts, '/' ∉ name.toList :=
      fun name member => (normal name member).2.2
    have steps : (part :: parts).filter isStep = part :: parts := by
      rw [List.filter_eq_self]
      intro name member
      obtain ⟨filled, undotted, -⟩ := normal name member
      simp [isStep, filled, undotted]
    have apart : ("/".intercalate (part :: parts)).toList.head? ≠ some '/' := by
      rw [head?_intercalate (normal part List.mem_cons_self).1]
      intro slash
      exact slashless part List.mem_cons_self (List.mem_of_head? slash)
    have read_root : Root.ofChars (toString ⟨root, part :: parts⟩).toList = root := by
      rw [text, String.toList_append, ofChars_text root apart]
    have read_parts : (names (toString ⟨root, part :: parts⟩)).filter isStep = part :: parts := by
      rw [text, steps_root, names_intercalate (List.cons_ne_nil _ _) slashless, steps]
    rw [ofString, read_root, read_parts]

end Stepwise.Path
