import Stepwise.Failure
import Stepwise.Proofs.CommandLine.RoundTrip
import Stepwise.Proofs.Text.Legible

/-! What a failure says of itself. A message is put together of numerals, fixed words and a command
line. No numeral has a blank or a colon in it, so the first one ends the numeral, and what follows
the fixed words is a line that only one command has. -/
namespace Stepwise

section Numerals

variable {i j : Int} {c : Char}

theorem toList_negSucc (n : Nat) :
    (toString (Int.negSucc n)).toList = '-' :: (toString (n + 1)).toList := by
  show ("-" ++ toString (n + 1)).toList = _
  simp

theorem mem_numeral (h : c ∈ (toString i).toList) : c = '-' ∨ c.isDigit := by
  cases i with
  | ofNat n => exact .inr (isDigit_of_mem_toString (n := n) h)
  | negSucc n =>
    rw [toList_negSucc] at h
    rcases List.mem_cons.mp h with sign | digit
    · exact .inl sign
    · exact .inr (isDigit_of_mem_toString digit)

theorem toList_negSucc_ne (m n : Nat) :
    (toString (Int.negSucc m)).toList ≠ (toString (Int.ofNat n)).toList := by
  intro same
  have sign : '-' ∈ (toString (Int.ofNat n)).toList := by
    rw [← same, toList_negSucc]
    exact List.mem_cons_self
  cases isDigit_of_mem_toString (n := n) sign

theorem toString_int_injective (h : (toString i).toList = (toString j).toList) : i = j := by
  cases i with
  | ofNat m =>
    cases j with
    | ofNat n => rw [toString_nat_injective (m := m) (n := n) h]
    | negSucc n => exact absurd h.symm (toList_negSucc_ne n m)
  | negSucc m =>
    cases j with
    | ofNat n => exact absurd h (toList_negSucc_ne m n)
    | negSucc n =>
      rw [toList_negSucc, toList_negSucc] at h
      have numbers := toString_nat_injective (List.cons.inj h).2
      rw [Nat.add_right_cancel numbers]

def EndsNumeral (c : Char) : Prop := c ≠ '-' ∧ c.isDigit = false

instance : Decidable (EndsNumeral c) := inferInstanceAs (Decidable (_ ∧ _))

theorem EndsNumeral.not_mem (h : EndsNumeral c) (i : Int) : c ∉ (toString i).toList := by
  intro member
  rcases mem_numeral member with sign | digit
  · exact h.1 sign
  · rw [h.2] at digit
    cases digit

theorem append_cons_inj {xs ys rest more : List Char} (left : c ∉ xs) (right : c ∉ ys) :
    xs ++ c :: rest = ys ++ c :: more ↔ xs = ys ∧ rest = more := by
  induction xs generalizing ys with
  | nil =>
    cases ys with
    | nil => simp
    | cons y ys =>
      have apart : c ≠ y := fun same => right (same ▸ List.mem_cons_self)
      simp [apart]
  | cons x xs ih =>
    cases ys with
    | nil =>
      have apart : x ≠ c := fun same => left (same ▸ List.mem_cons_self)
      simp [apart]
    | cons y ys =>
      have inner := ih (fun h => left (List.mem_cons_of_mem x h))
        (fun h => right (List.mem_cons_of_mem y h))
      simp [inner, and_assoc]

theorem numeral_inj {rest more : List Char} (h : EndsNumeral c) :
    (toString i).toList ++ c :: rest = (toString j).toList ++ c :: more ↔
      i = j ∧ rest = more := by
  rw [append_cons_inj (h.not_mem i) (h.not_mem j)]
  exact and_congr_left fun _ => ⟨toString_int_injective, fun same => by rw [same]⟩

end Numerals

namespace Failure

variable {i j x y : Int} {a b : List String}

theorem toList_message_exited (i x : Int) (a : List String) :
    (exited i a x).message.toList = "Step ".toList ++ ((toString i).toList ++ ' ' ::
      ("failed with exit code ".toList ++ ((toString x).toList ++ ':' :: ' ' ::
        (CommandLine.join a).toList))) := by
  simp [message]

theorem toList_message_unstartable (i : Int) (command : List String) (reason : String) :
    (unstartable (some i) command reason).message.toList = "Step ".toList ++
      ((toString i).toList ++ ' ' :: ("could not be executed (".toList ++ (reason ++ "): " ++
        CommandLine.join command).toList)) := by
  simp [message]

theorem message_exited_inj :
    (exited i a x).message = (exited j b y).message ↔ i = j ∧ x = y ∧ a = b := by
  rw [← String.toList_inj, toList_message_exited, toList_message_exited,
    List.append_cancel_left_eq, numeral_inj (by decide), List.append_cancel_left_eq,
    numeral_inj (by decide), List.cons_inj_right, String.toList_inj,
    CommandLine.join_injective.eq_iff]

theorem message_exited_ne (index : Option Int) (command : List String) (reason : String) :
    (exited i a x).message ≠ (unstartable index command reason).message := by
  intro same
  rw [← String.toList_inj, toList_message_exited] at same
  cases index with
  | none => simp [message] at same
  | some j =>
    -- The numerals may be the same; the words behind them begin with other letters.
    rw [toList_message_unstartable, List.append_cancel_left_eq, numeral_inj (by decide)] at same
    simp at same

theorem foldl_atIndex (index : Option Int) (command : List String) (reason : String)
    (indices : List Int) (last : Int) :
    (indices ++ [last]).foldl (fun failure i => failure.atIndex i)
      (unstartable index command reason) = unstartable (some last) command reason := by
  induction indices generalizing index with
  | nil => rfl
  | cons i rest ih => exact ih (some i)

/-- The message of a command that failed tells which step it was, how it ended and what was run, and
no command that could not be started has it. One that could not be started keeps its command and the
reason when it is bound to steps, and is told of as the step that it was bound to last. -/
theorem message_identifies :
    (∀ i j x y a b, (exited i a x).message = (exited j b y).message ↔ i = j ∧ x = y ∧ a = b) ∧
    (∀ i x a index command reason,
      (exited i a x).message ≠ (unstartable index command reason).message) ∧
    ∀ index command reason indices last,
      let bound := (indices ++ [last]).foldl (fun failure i => failure.atIndex i)
        (unstartable index command reason)
      bound = unstartable (some last) command reason ∧
      bound.message = "Step " ++ toString last ++ " could not be executed (" ++ reason ++ "): " ++
        CommandLine.join command := by
  refine ⟨fun _ _ _ _ _ _ => message_exited_inj, fun _ _ _ => message_exited_ne, ?_⟩
  intro index command reason indices last bound
  have rebound : bound = unstartable (some last) command reason :=
    foldl_atIndex index command reason indices last
  refine ⟨rebound, ?_⟩
  rw [rebound]
  rfl

end Failure

end Stepwise
