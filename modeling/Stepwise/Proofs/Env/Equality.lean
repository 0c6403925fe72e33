import Mathlib.Data.List.Perm.Subperm
import Stepwise.Proofs.Env.Secrets

/-! Environments as mappings. Two of them are the same if every variable has the same value in both,
in whatever order they are kept, and what is laid over a mapping depends on it as a mapping only. Two
layers that agree where both have a value may be laid in either order. -/
namespace Stepwise.Env

variable {e e' f f' g : Env}

theorem get?_eq_some {name value : String} : e.get? name = some value ↔ (name, value) ∈ e.pairs := by
  obtain ⟨pairs, nodup⟩ := e
  show pairs.lookup name = some value ↔ (name, value) ∈ pairs
  induction pairs with
  | nil => simp
  | cons p pairs ih =>
    obtain ⟨n, v⟩ := p
    obtain ⟨fresh, others⟩ := List.nodup_cons.mp nodup
    by_cases first : name = n
    · subst first
      have apart : (name, value) ∉ pairs :=
        fun later => fresh (List.mem_map.mpr ⟨(name, value), later, rfl⟩)
      simp [apart, eq_comm]
    · simp [List.lookup_cons, beq_false_of_ne first, first, ih others]

theorem Same.names_subset (h : Same e f) : e.names ⊆ f.names := by
  intro name member
  rw [mem_names_iff] at member ⊢
  rwa [← h name]

theorem Same.symm (h : Same e f) : Same f e := fun name => (h name).symm

theorem Same.trans (h : Same e f) (h' : Same f g) : Same e g :=
  fun name => (h name).trans (h' name)

/-- Comparing the number of variables and looking each of them up decides whether two environments
are the same. -/
theorem same_iff : e.same f = true ↔ Same e f := by
  have sizes : ∀ e : Env, e.names.length = e.pairs.length := fun e => List.length_map _
  simp only [same, Bool.and_eq_true, decide_eq_true_eq, List.all_eq_true]
  constructor
  · rintro ⟨size, each⟩ name
    cases value : e.get? name with
    | some v => exact (each (name, v) (get?_eq_some.mp value)).symm
    | none =>
      -- There are as many names on both sides, so the second one has none beside those of the first.
      have inside : e.names ⊆ f.names := by
        intro n member
        obtain ⟨p, here, rfl⟩ := List.mem_map.mp member
        rw [mem_names_iff, each p here]
        rfl
      have perm : e.names.Perm f.names :=
        (List.subperm_of_subset e.nodup inside).perm_of_length_le
          (Nat.le_of_eq ((sizes f).trans (size.symm.trans (sizes e).symm)))
      have absent : name ∉ f.names := by
        rw [← perm.mem_iff, mem_names_iff, value]
        simp
      rw [mem_names_iff] at absent
      exact (Option.not_isSome_iff_eq_none.mp absent).symm
  · intro h
    have perm : e.names.Perm f.names :=
      (List.subperm_of_subset e.nodup h.names_subset).antisymm
        (List.subperm_of_subset f.nodup h.symm.names_subset)
    constructor
    · rw [← sizes, ← sizes, perm.length_eq]
    · intro p member
      rw [← h p.1]
      exact get?_eq_some.mpr member

theorem keyed_equivalence {α κ : Type} {test : α → α → Bool} (key : α → κ) (env : α → Env)
    (h : ∀ {a b}, test a b = true ↔ key a = key b ∧ Same (env a) (env b)) :
    Equivalence fun a b => test a b = true where
  refl _ := h.mpr ⟨rfl, fun _ => rfl⟩
  symm same := h.mpr ⟨(h.mp same).1.symm, (h.mp same).2.symm⟩
  trans same same' := h.mpr ⟨(h.mp same).1.trans (h.mp same').1, (h.mp same).2.trans (h.mp same').2⟩

theorem Same.update (h : Same e e') (h' : Same f f') : Same (e.update f) (e'.update f') := by
  intro name
  rw [get?_update, get?_update, h name, h' name]

def Agree (e f : Env) : Prop :=
  ∀ name value value', e.get? name = some value → f.get? name = some value' → value = value'

theorem Agree.update_comm (h : Agree e f) (c : Env) :
    Same ((c.update e).update f) ((c.update f).update e) := by
  intro name
  simp only [get?_update]
  cases mine : e.get? name with
  | none => rfl
  | some value =>
    cases yours : f.get? name with
    | none => rfl
    | some value' =>
      rw [h name value value' mine yours]

end Stepwise.Env
