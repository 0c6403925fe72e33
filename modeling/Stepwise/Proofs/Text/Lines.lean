import Mathlib.Data.List.Basic
import Stepwise.Proofs.Text.Legible
import Stepwise.Text.Blank
import Stepwise.Text.Lines

/-! Texts as lines. A line end parts a text into the lines before it and those after it, and where
two texts meet without one the last line of the first and the first line of the second are one line.
Readers differ in what else than a line feed ends a line, but for none of them does anything that is
printed in ASCII. -/
namespace Stepwise.Text

section Pieces

variable {p : Char → Bool}

theorem splitWhere_of_none {cs : List Char} (h : ∀ c ∈ cs, p c = false) :
    splitWhere p cs = [cs] := by
  induction cs with
  | nil => rfl
  | cons c cs ih =>
    obtain ⟨first, others⟩ := List.forall_mem_cons.mp h
    simp [splitWhere, first, ih others]

theorem splitWhere_parted {c : Char} (h : p c = true) (cs ds : List Char) :
    splitWhere p (cs ++ c :: ds) = splitWhere p cs ++ splitWhere p ds := by
  induction cs with
  | nil => simp [splitWhere, h]
  | cons d cs ih =>
    obtain ⟨piece, pieces, split⟩ := List.exists_cons_of_ne_nil (splitWhere_ne_nil p cs)
    simp only [List.cons_append, splitWhere, ih, split]
    split <;> rfl

theorem splitWhere_glued {cs ds last first : List Char} {before after : List (List Char)}
    (h : splitWhere p cs = before ++ [last]) (h' : splitWhere p ds = first :: after) :
    splitWhere p (cs ++ ds) = before ++ (last ++ first) :: after := by
  induction cs generalizing before last with
  | nil =>
    cases before with
    | nil =>
      cases h
      exact h'
    | cons x before => simp [splitWhere] at h
  | cons c cs ih =>
    obtain ⟨piece, pieces, split⟩ := List.exists_cons_of_ne_nil (splitWhere_ne_nil p cs)
    simp only [splitWhere, split] at h
    by_cases ended : p c = true
    · rw [if_pos ended] at h
      cases before with
      | nil => cases h
      | cons x before =>
        obtain ⟨rfl, rest⟩ := List.cons.inj h
        simp [splitWhere, ended, ih (split.trans rest)]
    · rw [if_neg ended] at h
      cases before with
      | nil =>
        obtain ⟨rfl, rfl⟩ := List.cons.inj h
        simp [splitWhere, ended, ih (split.trans (List.nil_append [piece]).symm)]
      | cons x before =>
        obtain ⟨rfl, rfl⟩ := List.cons.inj h
        simp [splitWhere, ended, ih (split.trans List.cons_append.symm)]

theorem head?_splitWhere (cs : List Char) :
    (splitWhere p cs).head? = some (cs.takeWhile fun c => !p c) := by
  induction cs with
  | nil => rfl
  | cons c cs ih =>
    obtain ⟨piece, pieces, split⟩ := List.exists_cons_of_ne_nil (splitWhere_ne_nil p cs)
    rw [split] at ih
    cases ended : p c with
    | true => simp [splitWhere, ended]
    | false => simpa [splitWhere, ended, split] using ih

theorem start_of_splitWhere {cs first : List Char} {after : List (List Char)}
    (split : splitWhere p cs = first :: after) : first <+: cs := by
  have head := head?_splitWhere (p := p) cs
  rw [split] at head
  rw [Option.some.inj head]
  exact List.takeWhile_prefix _

theorem splitWhere_concat (p : Char → Bool) (cs : List Char) :
    ∃ before last, splitWhere p cs = before ++ [last] :=
  (List.eq_nil_or_concat' _).resolve_left (splitWhere_ne_nil p cs)

theorem getLast?_of_splitWhere {cs last : List Char} {before : List (List Char)} {c : Char}
    (split : splitWhere p cs = before ++ [last]) (at_end : last.getLast? = some c) :
    cs.getLast? = some c := by
  have same : ∀ {before' : List (List Char)} {last' : List Char},
      splitWhere p cs = before' ++ [last'] → last'.getLast? = some c := by
    intro before' last' split'
    obtain ⟨-, last_eq⟩ := List.append_inj' (split.symm.trans split') rfl
    rwa [← List.head_eq_of_cons_eq last_eq]
  rcases List.eq_nil_or_concat' cs with rfl | ⟨text, d, rfl⟩
  · exact same (List.nil_append [[]]).symm
  · cases ended : p d with
    | true => cases same (splitWhere_parted ended text [])
    | false =>
      obtain ⟨before', last', split'⟩ := splitWhere_concat p text
      have single : splitWhere p [d] = [d] :: [] := by simp [splitWhere, ended]
      have at_end := same (splitWhere_glued split' single)
      rwa [List.getLast?_concat] at at_end ⊢

end Pieces

/-- Characters that end lines. Line feeds do, and what is printed in ASCII does not. -/
structure LineEnds (ends : Char → Bool) : Prop where
  newline : ends '\n' = true
  printed : ∀ c, ' ' ≤ c → c ≤ '~' → ends c = false

theorem LineEnds.newline_only : LineEnds (· = '\n') where
  newline := rfl
  printed := by
    rintro c low -
    rw [decide_eq_false_iff_not]
    rintro rfl
    exact absurd low (by decide)

theorem LineEnds.displayed : LineEnds isLineEnd where
  newline := rfl
  printed := by
    intro c low high
    have low' : 32 ≤ c.toNat := low
    have high' : c.toNat ≤ 126 := high
    simp [isLineEnd]
    omega

def Ascii (cs : List Char) : Prop := ∀ c ∈ cs, ' ' ≤ c ∧ c ≤ '~'

instance (cs : List Char) : Decidable (Ascii cs) :=
  List.decidableBAll (fun c => ' ' ≤ c ∧ c ≤ '~') cs

def OneLine (ends : Char → Bool) (cs : List Char) : Prop := ∀ c ∈ cs, ends c = false

instance (ends : Char → Bool) (cs : List Char) : Decidable (OneLine ends cs) :=
  List.decidableBAll (fun c => ends c = false) cs

theorem LineEnds.oneLine {ends : Char → Bool} (h : LineEnds ends) {cs : List Char}
    (ascii : Ascii cs) : OneLine ends cs :=
  fun c inside => h.printed c (ascii c inside).1 (ascii c inside).2

def isSimple (c : Char) : Bool := c.isAlphanum || c = '-'

def Simple (cs : List Char) : Prop := ∀ c ∈ cs, isSimple c = true

instance (cs : List Char) : Decidable (Simple cs) :=
  List.decidableBAll (fun c => isSimple c = true) cs

theorem isSimple_bounds {c : Char} (h : isSimple c = true) :
    (48 ≤ c.toNat ∧ c.toNat ≤ 57) ∨ (65 ≤ c.toNat ∧ c.toNat ≤ 90) ∨
      (97 ≤ c.toNat ∧ c.toNat ≤ 122) ∨ c.toNat = 45 := by
  have within : ∀ {low high : UInt32}, low ≤ c.val → c.val ≤ high →
      low.toNat ≤ c.toNat ∧ c.toNat ≤ high.toNat :=
    fun low high => ⟨UInt32.le_iff_toNat_le.mp low, UInt32.le_iff_toNat_le.mp high⟩
  rcases (Bool.or_eq_true _ _).mp h with alphanum | hyphen
  · rcases (Bool.or_eq_true _ _).mp alphanum with alpha | digit
    · rcases (Bool.or_eq_true _ _).mp alpha with upper | lower
      · have bounds := of_decide_eq_true upper
        exact .inr (.inl (within bounds.1 bounds.2))
      · have bounds := (Bool.and_eq_true _ _).mp lower
        exact .inr (.inr (.inl (within (of_decide_eq_true bounds.1) (of_decide_eq_true bounds.2))))
    · have bounds := (Bool.and_eq_true _ _).mp digit
      exact .inl (within (of_decide_eq_true bounds.1) (of_decide_eq_true bounds.2))
  · rw [of_decide_eq_true hyphen]
    exact .inr (.inr (.inr rfl))

theorem Simple.ascii {cs : List Char} (simple : Simple cs) : Ascii cs := by
  intro c inside
  have bounds := isSimple_bounds (simple c inside)
  show 32 ≤ c.toNat ∧ c.toNat ≤ 126
  omega

theorem Simple.not_isBlank {cs : List Char} (simple : Simple cs) : ∀ c ∈ cs, isBlank c = false := by
  intro c inside
  have bounds := isSimple_bounds (simple c inside)
  simp [isBlank]
  omega

theorem simple_int (i : Int) : Simple (toString i).toList := by
  have digits : ∀ n : Nat, Simple (toString n).toList := by
    intro n c inside
    simp [isSimple, Char.isAlphanum, isDigit_of_mem_toString inside]
  cases i with
  | ofNat n => exact digits n
  | negSucc n =>
    have split : (toString (Int.negSucc n)).toList = '-' :: (toString (n + 1)).toList :=
      String.toList_append
    rw [split]
    exact List.forall_mem_cons.mpr ⟨rfl, digits (n + 1)⟩

end Stepwise.Text
