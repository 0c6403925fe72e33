import Stepwise.Context
import Stepwise.Proofs.Env.Layering
import Stepwise.Proofs.Path.Normal

/-! What a step's context is made of. Variables come in three layers, those of the base, those for
all steps and those of the step, and the directory is that of the base unless the step has its own.
Leaving a context as it is where a step asks for nothing gives the same as overriding it. -/
namespace Stepwise.Context

theorem forStep_eq_override (c : Context) (s : Step) : c.forStep s = c.override s.env s.cwd := by
  unfold forStep suits
  split
  · rename_i nothing
    obtain ⟨plain, here⟩ := Bool.and_eq_true _ _ ▸ nothing
    simp [override, Env.update_of_isEmpty plain, Option.isNone_iff_eq_none.mp here]
  · rfl

/-- The context of a step over a base and variables for all steps. -/
structure Layered (base : Context) (shared : Env) (s : Step) (c : Context) : Prop where
  env : c.env = (base.env.update shared).update s.env
  value : ∀ name, c.env.get? name =
    ((s.env.get? name).or (shared.get? name)).or (base.env.get? name)
  order : c.env.names = base.env.names ++ shared.names.filter (· ∉ base.env.names) ++
    s.env.names.filter fun name => name ∉ base.env.names ∧ name ∉ shared.names
  cwd : c.cwd = match s.cwd with
    | none => base.cwd
    | some dir =>
      if dir.toPath.isAbsolute then dir.toPath else base.cwd / dir.toPath
  normal : ∀ dir, s.cwd = some dir → dir.toPath.isAbsolute ∨ base.cwd.Normal → c.cwd.Normal
  absolute : base.cwd.isAbsolute → c.cwd.isAbsolute

theorem layered (base : Context) (shared : Env) (s : Step) :
    Layered base shared s ((base.override shared none).override s.env s.cwd) := by
  constructor
  case env => rfl
  case value =>
    intro name
    show ((base.env.update shared).update s.env).get? name = _
    rw [Env.get?_update, Env.get?_update, Option.or_assoc]
  case order =>
    have own : s.env.names.filter (· ∉ (base.env.update shared).names) =
        s.env.names.filter fun name => name ∉ base.env.names ∧ name ∉ shared.names := by
      apply List.filter_congr
      intro name _
      simp [Env.mem_names_update]
    show ((base.env.update shared).update s.env).names = _
    rw [Env.names_update, own, Env.names_update]
  case cwd =>
    cases s.cwd with
    | none => rfl
    | some dir =>
      by_cases h : dir.toPath.isAbsolute
      · simp [override, h, Path.join_of_isAbsolute h]
      · simp [override, h]
  case normal =>
    intro dir own h
    have read := dir.toPath_normal
    rcases h with absolute | normal
    · simpa [override, own, Path.join_of_isAbsolute absolute] using read
    · simpa [override, own] using normal.join read
  case absolute =>
    intro h
    cases own : s.cwd with
    | none => simpa [override] using h
    | some dir => simp [override, Path.isAbsolute_join, h]

end Stepwise.Context
