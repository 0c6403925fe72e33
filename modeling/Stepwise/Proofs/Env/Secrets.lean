import Stepwise.Env.Masking
import Stepwise.Proofs.Env.Layering

/-! What masking leaves of variables: their names in their order, and the values of those that are no
secrets. Two environments look the same under the mask exactly if they differ in the values of
secrets only. Whether a variable is a secret does not depend on the case of the letters of its
name. -/
namespace Stepwise

theorem Text.upperChar_toUpper (c : Char) : upperChar c.toUpper = upperChar c := by
  by_cases lower : c.toNat ≤ 'z'.toNat ∧ 'a'.toNat ≤ c.toNat
  · obtain ⟨last, first⟩ := lower
    have each : ∀ n ≤ 'z'.toNat, upperChar (Char.ofNat n).toUpper = upperChar (Char.ofNat n) := by
      decide
    simpa using each c.toNat last
  · have same : c.toUpper = c := dif_neg fun ⟨first, last⟩ =>
      lower ⟨UInt32.le_iff_toNat_le.mp last, UInt32.le_iff_toNat_le.mp first⟩
    rw [same]

theorem Text.upper_of_map_toUpper {cs ds : List Char} (h : cs.map Char.toUpper = ds.map Char.toUpper) :
    upper cs = upper ds := by
  have through : ∀ cs : List Char, upper cs = (cs.map Char.toUpper).flatMap upperChar := by
    intro cs
    simp only [upper, List.flatMap_map, Text.upperChar_toUpper]
  rw [through, h, ← through]

namespace Env

theorem names_mapValues (f : String → String → String) (e : Env) :
    (e.mapValues f).names = e.names := by
  simp [names, mapValues, Function.comp_def]

theorem get?_mapValues (f : String → String → String) (e : Env) (name : String) :
    (e.mapValues f).get? name = (e.get? name).map (f name) := by
  obtain ⟨pairs, nodup⟩ := e
  show (pairs.map fun p => (p.1, f p.1 p.2)).lookup name = (pairs.lookup name).map (f name)
  clear nodup
  induction pairs with
  | nil => rfl
  | cons p pairs ih =>
    obtain ⟨n, value⟩ := p
    by_cases same : name = n
    · simp [same]
    · simp [List.lookup_cons, beq_false_of_ne same, ih]

theorem names_mask (e : Env) : e.mask.names = e.names := names_mapValues _ e

theorem get?_mask (e : Env) (name : String) :
    e.mask.get? name = (e.get? name).map (maskValue name) :=
  get?_mapValues _ e name

theorem isEmpty_eq_names (e : Env) : e.isEmpty = e.names.isEmpty :=
  (List.isEmpty_map ..).symm

theorem maskValue_maskValue (name value : String) :
    maskValue name (maskValue name value) = maskValue name value := by
  cases secret : isSensitive name <;> simp [maskValue, secret]

theorem mask_mask (e : Env) : e.mask.mask = e.mask := by
  apply ext_views
  · rw [names_mask]
  · intro name
    rw [get?_mask, get?_mask, Option.map_map]
    congr 1
    exact funext (maskValue_maskValue name)

theorem mem_names_iff {e : Env} {name : String} : name ∈ e.names ↔ (e.get? name).isSome := by
  simp [names, get?]

/-- Two environments differ in the values of secrets only. -/
structure SameButSecrets (e f : Env) : Prop where
  names : e.names = f.names
  values : ∀ name, isSensitive name = false → e.get? name = f.get? name

/-- Under the mask environments look the same exactly if they differ in the values of secrets
only. -/
theorem mask_eq_mask_iff {e f : Env} : e.mask = f.mask ↔ e.SameButSecrets f := by
  constructor
  · intro same
    constructor
    · rw [← names_mask e, same, names_mask]
    · intro name plain
      have shown : ∀ e : Env, e.mask.get? name = e.get? name := by
        intro e
        have kept : maskValue name = id := by
          funext value
          simp [maskValue, plain]
        rw [get?_mask, kept, Option.map_id_apply]
      rw [← shown, same, shown]
  · rintro ⟨names, values⟩
    apply ext_views
    · rw [names_mask, names_mask, names]
    · intro name
      rw [get?_mask, get?_mask]
      cases secret : isSensitive name with
      | false => rw [values name secret]
      | true =>
        -- Of a secret only its presence is seen, and that is a matter of names.
        have hidden : maskValue name = fun _ => maskText := by
          funext value
          simp [maskValue, secret]
        have present : (e.get? name).isSome = (f.get? name).isSome := by
          rw [Bool.eq_iff_iff, ← mem_names_iff, ← mem_names_iff, names]
        rw [hidden]
        cases mine : e.get? name <;> cases yours : f.get? name <;> simp [mine, yours] at present ⊢

theorem isSensitive_of_map_toUpper {name name' : String}
    (h : name.toList.map Char.toUpper = name'.toList.map Char.toUpper) :
    isSensitive name = isSensitive name' := by
  unfold isSensitive
  rw [Text.upper_of_map_toUpper h]

end Env

end Stepwise
