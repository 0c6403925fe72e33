import Mathlib.Data.List.Basic
import Stepwise.CommandLine
import Stepwise.Text.Quoted

/-! Texts that can be written. A lone surrogate has no octets; everything else has. Texts that are
put together of such texts are such texts, and so is every number and every quoted text, whatever
stands between the quotes. -/
namespace Stepwise

/-- Characters that all have octets. -/
def Legible (cs : List Char) : Prop := ∀ c ∈ cs, Text.isLone c = false

instance (cs : List Char) : Decidable (Legible cs) :=
  List.decidableBAll (fun c => Text.isLone c = false) cs

namespace Legible

variable {cs ds : List Char}

theorem nil : Legible [] := by
  intro c member
  cases member

theorem cons {c : Char} (first : Text.isLone c = false) (rest : Legible cs) : Legible (c :: cs) :=
  List.forall_mem_cons.mpr ⟨first, rest⟩

theorem of_cons {c : Char} (h : Legible (c :: cs)) : Text.isLone c = false ∧ Legible cs :=
  List.forall_mem_cons.mp h

theorem of_append (h : Legible (cs ++ ds)) : Legible cs ∧ Legible ds :=
  List.forall_mem_append.mp h

theorem append (h : Legible cs) (h' : Legible ds) : Legible (cs ++ ds) :=
  List.forall_mem_append.mpr ⟨h, h'⟩

theorem sub (h : Legible cs) (inside : ds ⊆ cs) : Legible ds := fun c member => h c (inside member)

theorem of_hasLone {s : String} (h : Text.hasLone s = false) : Legible s.toList := by
  simpa [Text.hasLone, Legible] using h

theorem replicate {c : Char} (h : Text.isLone c = false) (n : Nat) :
    Legible (List.replicate n c) := by
  intro d member
  rw [(List.mem_replicate.mp member).2]
  exact h

theorem spaces (n : Nat) : Legible (List.replicate n ' ') := .replicate (by decide) n

theorem ofList (h : Legible cs) : Legible (String.ofList cs).toList := by
  rw [String.toList_ofList]
  exact h

theorem string_append {s t : String} (h : Legible s.toList) (h' : Legible t.toList) :
    Legible (s ++ t).toList := by
  rw [String.toList_append]
  exact h.append h'

theorem intercalate {sep : String} {parts : List String} (between : Legible sep.toList)
    (h : ∀ part ∈ parts, Legible part.toList) : Legible (sep.intercalate parts).toList := by
  induction parts with
  | nil => exact .nil
  | cons part rest ih =>
    obtain ⟨first, others⟩ := List.forall_mem_cons.mp h
    cases rest with
    | nil => rwa [String.intercalate_singleton]
    | cons next rest =>
      rw [String.intercalate_cons_cons]
      exact (first.string_append between).string_append (ih others)

end Legible

namespace Text

theorem legible_hexDigits (width n : Nat) : Legible (hexDigits width n) := by
  have digit : ∀ d < 16, isLone (Nat.digitChar d) = false := by decide
  induction width generalizing n with
  | zero => exact .nil
  | succ width ih => exact (ih (n / 16)).append (.cons (digit _ (Nat.mod_lt n (by decide))) .nil)

theorem legible_numericEscape (n : Nat) : Legible (numericEscape n) := by
  unfold numericEscape
  split
  · exact .cons (by decide) (.cons (by decide) (legible_hexDigits 2 n))
  · split
    · exact .cons (by decide) (.cons (by decide) (legible_hexDigits 4 n))
    · exact .cons (by decide) (.cons (by decide) (legible_hexDigits 8 n))

theorem not_isLone_of_isPrintable {c : Char} (h : isPrintable c) : isLone c = false := by
  cases lone : isLone c with
  | false => rfl
  | true =>
    obtain ⟨low, high⟩ : 0xd800 ≤ c.toNat - loneShift ∧ c.toNat - loneShift ≤ 0xdfff := by
      simpa [isLone, isSurrogate] using lone
    have last : (918000, 1114111) ∈ invisibleRanges := by decide +kernel
    simp only [loneShift] at low high
    unfold isPrintable at h
    simp only at h
    split at h
    · omega
    · have visible : ∀ first final, (first, final) ∈ invisibleRanges →
          first ≤ c.toNat → final < c.toNat := by simpa using h
      have beyond := visible _ _ last
      omega

theorem legible_quotedChar {q : Char} (quote : isLone q = false) (c : Char) :
    Legible (quotedChar q c) := by
  unfold quotedChar
  split
  · rename_i special
    have plain : isLone c = false := by
      have either : c = q ∨ c = '\\' := by simpa using special
      rcases either with rfl | rfl
      · exact quote
      · decide
    exact .cons (by decide) (.cons plain .nil)
  · split
    · decide
    · split
      · decide
      · split
        · decide
        · split
          · rename_i printable
            exact .cons (not_isLone_of_isPrintable printable) .nil
          · exact legible_numericEscape _

theorem quoteFor_not_lone (cs : List Char) : isLone (quoteFor cs) = false := by
  unfold quoteFor
  split <;> decide

theorem legible_quoted (s : String) : Legible (quoted s).toList := by
  have quote := quoteFor_not_lone s.toList
  unfold quoted
  rw [String.toList_ofList]
  refine .append (.cons quote ?_) (.cons quote .nil)
  intro c member
  obtain ⟨d, -, here⟩ := List.mem_flatMap.mp member
  exact legible_quotedChar quote d c here

theorem legible_quotedBytes (bytes : List UInt8) : Legible (quotedBytes bytes).toList := by
  have quote := quoteFor_not_lone (bytes.map fun b => Char.ofNat b.toNat)
  unfold quotedBytes
  rw [String.toList_ofList]
  refine .append (.cons (by decide) (.cons quote ?_)) (.cons quote .nil)
  intro c member
  obtain ⟨b, -, here⟩ := List.mem_flatMap.mp member
  unfold quotedOctet at here
  split at here
  · exact legible_quotedChar quote _ c here
  · exact legible_numericEscape _ c here

end Text

section Numbers

theorem isDigit_of_mem_toString {n : Nat} {c : Char} (h : c ∈ (toString n).toList) : c.isDigit := by
  have digits : c ∈ Nat.toDigits 10 n := by
    rw [← Nat.toList_repr]
    exact h
  exact Nat.isDigit_of_mem_toDigits (by decide) (by decide) digits

theorem toString_nat_injective {m n : Nat} (h : (toString m).toList = (toString n).toList) :
    m = n := by
  have digits : Nat.toDigits 10 m = Nat.toDigits 10 n := by
    rw [← Nat.toList_repr, ← Nat.toList_repr]
    exact h
  have value := congrArg (Nat.ofDigitChars 10 · 0) digits
  simpa [Nat.ofDigitChars_toDigits] using value

theorem not_isLone_of_isDigit {c : Char} (h : c.isDigit) : Text.isLone c = false := by
  obtain ⟨-, high⟩ : 48 ≤ c.toNat ∧ c.toNat ≤ 57 := by
    simpa [Char.isDigit, UInt32.le_iff_toNat_le] using h
  have small : c.toNat - Text.loneShift = 0 := by
    simp only [Text.loneShift]
    omega
  simp [Text.isLone, small, Text.isSurrogate]

theorem legible_nat (n : Nat) : Legible (toString n).toList :=
  fun _ member => not_isLone_of_isDigit (isDigit_of_mem_toString member)

theorem legible_int (i : Int) : Legible (toString i).toList := by
  cases i with
  | ofNat n => exact legible_nat n
  | negSucc n => exact Legible.string_append (by decide : Legible "-".toList) (legible_nat (n + 1))

end Numbers

theorem CommandLine.legible_quote {arg : String} (h : Legible arg.toList) :
    Legible (quote arg).toList := by
  unfold quote
  rw [String.toList_ofList]
  unfold quoteChars
  split
  · exact h
  · refine .cons (by decide) (.append ?_ (.cons (by decide) .nil))
    intro c member
    obtain ⟨d, inside, here⟩ := List.mem_flatMap.mp member
    unfold quoteChar at here
    split at here
    · have quotes : Legible ['\x27', '\x22', '\x27', '\x22', '\x27'] := by decide
      exact quotes c here
    · cases List.mem_singleton.mp here
      exact h c inside

theorem CommandLine.legible_join {args : List String} (h : ∀ arg ∈ args, Legible arg.toList) :
    Legible (join args).toList := by
  apply Legible.intercalate (by decide)
  intro part member
  obtain ⟨arg, inside, rfl⟩ := List.mem_map.mp member
  exact legible_quote (h arg inside)

end Stepwise
