import Stepwise.Proofs.Context.Derivation
import Stepwise.Proofs.Path.Spelling

/-! Overrides one after the other. They come to one override: the variables of the later one are laid
over those of the earlier one, and its directory is seen from the earlier one's. -/
namespace Stepwise.Context

/-- Whether a directory is the same from everywhere: a text begins with a slash, a path has a
root. -/
def Rooted : Directory → Prop
  | .text s => s.toList.head? = some '/'
  | .path p _ => p.root ≠ .here

instance : DecidablePred Rooted
  | .text s => inferInstanceAs (Decidable (s.toList.head? = some '/'))
  | .path p _ => inferInstanceAs (Decidable (p.root ≠ .here))

theorem isAbsolute_toPath_iff (d : Directory) : d.toPath.isAbsolute = true ↔ Rooted d := by
  cases d with
  | text s => simp [Directory.toPath, Path.isAbsolute_ofString, Rooted]
  | path p normal => exact decide_eq_true_iff

/-- The directory that two overrides come to. A later one that is rooted stands for itself; any
other is seen from the earlier one, if there is one. -/
def directory : Option Directory → Option Directory → Option Directory
  | earlier, none => earlier
  | none, some later => some later
  | some earlier, some later =>
    if Rooted later then some later
    else some (.text (earlier.toPath / later.toPath).toString)

def placed (p : Path) (dir : Option Directory) : Path := dir.elim p (p / ·.toPath)

theorem override_eq (c : Context) (e : Env) (dir : Option Directory) :
    c.override e dir = ⟨placed c.cwd dir, c.env.update e⟩ := by
  cases dir <;> rfl

theorem placed_placed (p : Path) (d d' : Option Directory) :
    placed (placed p d) d' = placed p (directory d d') := by
  cases d' with
  | none => cases d <;> rfl
  | some later =>
    cases d with
    | none => rfl
    | some earlier =>
      show p / earlier.toPath / later.toPath = _
      by_cases rooted : Rooted later
      · have absolute : later.toPath.isAbsolute := (isAbsolute_toPath_iff later).mpr rooted
        rw [Path.join_of_isAbsolute absolute, directory, if_pos rooted]
        exact (Path.join_of_isAbsolute absolute).symm
      · have normal : (earlier.toPath / later.toPath).Normal :=
          earlier.toPath_normal.join later.toPath_normal
        rw [Path.join_assoc, directory, if_neg rooted]
        show _ = p / Path.ofString (Path.toString _)
        rw [Path.ofString_toString normal]

/-- Two overrides are one, with the variables in the same order. An override with nothing leaves a
context as it is, and the context of a step is that of the step's own override, also where the
step asks for nothing and is given the context at hand. -/
theorem overrides_compose (c : Context) (e e' : Env) (d d' : Option Directory) :
    (c.override e d).override e' d' = c.override (e.update e') (directory d d') ∧
    c.override ∅ none = c ∧
    ∀ s, c.forStep s = c.override s.env s.cwd := by
  refine ⟨?_, rfl, c.forStep_eq_override⟩
  rw [override_eq, override_eq, override_eq, placed_placed, Env.update_update]

example :
    ((⟨.ofString "/w", .ofPairs [("A", "1"), ("B", "2")]⟩ : Context).override
      (.ofPairs [("C", "3"), ("B", "4")]) (some (.text "src//."))).override
        (.ofPairs [("B", "5"), ("D", "6")]) (some (.text "./a/../b/")) =
    ⟨⟨.slash, ["w", "src", "a", "..", "b"]⟩,
      .ofPairs [("A", "1"), ("B", "5"), ("C", "3"), ("D", "6")]⟩ := by
  decide

end Stepwise.Context
