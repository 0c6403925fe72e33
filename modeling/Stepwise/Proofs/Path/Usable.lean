import Mathlib.Data.Option.Basic
import Stepwise.Fault
import Stepwise.Proofs.Path.Normal

/-! Names that the system can be given. A path keeps all that a text writes except slashes and dots,
and neither of these is at fault; so a text names a file if its path does. -/
namespace Stepwise

namespace Path

end Path

theorem Text.Utf8.encodeErrorFrom_eq_none {kept : Char → Bool} {position : Nat} {cs : List Char} :
    encodeErrorFrom kept position cs = none ↔ ∀ c ∈ cs, (isLone c && !kept c) = false := by
  induction cs generalizing position with
  | nil => simp [encodeErrorFrom]
  | cons c cs ih =>
    rw [List.forall_mem_cons, ← @ih (position + 1), encodeErrorFrom]
    split
    · rename_i refused
      simp only [refused]
      simp
    · rename_i taken
      simp only [taken]
      simp

theorem nameFault?_eq_none {name : String} : nameFault? name = none ↔
    ∀ c ∈ name.toList, (Text.isLone c && !Text.Utf8.isOctet c) = false ∧ c ≠ '\x00' := by
  have nul : nulFault? name = none ↔ '\x00' ∉ name.toList := by simp [nulFault?]
  have encode : encodeFault? name = none ↔
      ∀ c ∈ name.toList, (Text.isLone c && !Text.Utf8.isOctet c) = false := by
    rw [encodeFault?, Option.map_eq_none_iff]
    exact Text.Utf8.encodeErrorFrom_eq_none
  rw [nameFault?, Option.orElse_eq_none, encode, nul]
  constructor
  · rintro ⟨encodes, other⟩ c member
    exact ⟨encodes c member, fun same => other (same ▸ member)⟩
  · exact fun each => ⟨fun c member => (each c member).1, fun member => (each _ member).2 rfl⟩

end Stepwise
