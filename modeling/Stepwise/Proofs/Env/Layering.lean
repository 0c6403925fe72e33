import Stepwise.Env

/-! Environments laid over each other. An update is settled by two views: the value of every
variable, where the later layer wins, and the order of the names, where the earlier layer comes
first. -/
namespace Stepwise.Env

theorem names_setPair_of_mem {name : String} (value : String) {pairs : List (String × String)}
    (h : name ∈ pairs.map Prod.fst) :
    (setPair name value pairs).map Prod.fst = pairs.map Prod.fst := by
  induction pairs with
  | nil => cases h
  | cons p rest ih =>
    by_cases same : p.1 = name
    · simp [setPair, same]
    · have later : name ∈ rest.map Prod.fst := by
        rcases List.mem_cons.mp h with first | later
        · exact absurd first.symm same
        · exact later
      simp [setPair, same, ih later]

theorem names_setPair_of_not_mem {name : String} (value : String) {pairs : List (String × String)}
    (h : name ∉ pairs.map Prod.fst) :
    (setPair name value pairs).map Prod.fst = pairs.map Prod.fst ++ [name] := by
  induction pairs with
  | nil => rfl
  | cons p rest ih =>
    simp only [List.map_cons, List.mem_cons, not_or] at h
    have other : ¬ p.1 = name := fun same => h.1 same.symm
    simp [setPair, other, ih h.2]

theorem names_set_of_mem {e : Env} {name : String} (value : String) (h : name ∈ e.names) :
    (e.set name value).names = e.names :=
  names_setPair_of_mem value h

theorem names_set_of_not_mem {e : Env} {name : String} (value : String) (h : name ∉ e.names) :
    (e.set name value).names = e.names ++ [name] :=
  names_setPair_of_not_mem value h

theorem lookup_of_not_mem {name : String} {pairs : List (String × String)}
    (h : name ∉ pairs.map Prod.fst) : pairs.lookup name = none := by
  rw [List.lookup_eq_none_iff]
  intro p member
  have apart : name ≠ p.1 := fun same => h (same ▸ List.mem_map_of_mem member)
  simpa using apart

theorem get?_foldl_set (pairs : List (String × String)) (nodup : (pairs.map Prod.fst).Nodup)
    (e : Env) (name : String) :
    (pairs.foldl (fun acc p => acc.set p.1 p.2) e).get? name =
      (pairs.lookup name).or (e.get? name) := by
  induction pairs generalizing e with
  | nil => rfl
  | cons p rest ih =>
    obtain ⟨n, value⟩ := p
    obtain ⟨fresh, others⟩ := List.nodup_cons.mp nodup
    rw [List.foldl_cons, ih others, get?_set]
    by_cases same : name = n
    · subst same
      rw [lookup_of_not_mem fresh]
      simp
    · simp [same, List.lookup_cons, beq_false_of_ne same]

theorem names_foldl_set (pairs : List (String × String)) (nodup : (pairs.map Prod.fst).Nodup)
    (e : Env) :
    (pairs.foldl (fun acc p => acc.set p.1 p.2) e).names =
      e.names ++ (pairs.map Prod.fst).filter (· ∉ e.names) := by
  induction pairs generalizing e with
  | nil => simp
  | cons p rest ih =>
    obtain ⟨fresh, others⟩ := List.nodup_cons.mp nodup
    rw [List.foldl_cons, ih others]
    by_cases old : p.1 ∈ e.names
    · simp [names_set_of_mem p.2 old, old]
    · have same : (rest.map Prod.fst).filter (· ∉ e.names ++ [p.1]) =
          (rest.map Prod.fst).filter (· ∉ e.names) := by
        apply List.filter_congr
        intro name member
        have apart : name ≠ p.1 := fun eq => fresh (eq ▸ member)
        simp [apart]
      rw [names_set_of_not_mem p.2 old, same]
      simp [old]

theorem get?_update (e f : Env) (name : String) :
    (e.update f).get? name = (f.get? name).or (e.get? name) :=
  get?_foldl_set f.pairs f.nodup e name

/-- The names of the earlier layer come first, and those that only the later one has follow. -/
theorem names_update (e f : Env) :
    (e.update f).names = e.names ++ f.names.filter (· ∉ e.names) :=
  names_foldl_set f.pairs f.nodup e

theorem mem_names_update {e f : Env} {name : String} :
    name ∈ (e.update f).names ↔ name ∈ e.names ∨ name ∈ f.names := by
  rw [names_update, List.mem_append, List.mem_filter]
  by_cases old : name ∈ e.names <;> simp [old]

theorem update_of_isEmpty {e f : Env} (h : f.isEmpty) : e.update f = e := by
  unfold update
  rw [List.isEmpty_iff.mp h]
  rfl

theorem pairs_of_views {ps qs : List (String × String)} (names : ps.map Prod.fst = qs.map Prod.fst)
    (nodup : (ps.map Prod.fst).Nodup) (values : ∀ name, ps.lookup name = qs.lookup name) :
    ps = qs := by
  induction ps generalizing qs with
  | nil => exact (List.map_eq_nil_iff.mp names.symm).symm
  | cons p ps ih =>
    obtain ⟨n, v⟩ := p
    cases qs with
    | nil => cases names
    | cons q qs =>
      obtain ⟨m, w⟩ := q
      obtain ⟨rfl, rest⟩ := List.cons.inj names
      obtain ⟨fresh, others⟩ := List.nodup_cons.mp nodup
      have first := values n
      simp only [List.lookup_cons_self, Option.some.injEq] at first
      have later : ∀ name, ps.lookup name = qs.lookup name := by
        intro name
        by_cases same : name = n
        · subst same
          rw [lookup_of_not_mem fresh, lookup_of_not_mem (rest ▸ fresh)]
        · simpa [List.lookup_cons, beq_false_of_ne same] using values name
      rw [ih rest others later, first]

theorem ext_views {e f : Env} (names : e.names = f.names)
    (values : ∀ name, e.get? name = f.get? name) : e = f :=
  ext_pairs (pairs_of_views names e.nodup values)

theorem update_update (e f g : Env) : (e.update f).update g = e.update (f.update g) := by
  apply ext_views
  · have fresh : g.names.filter (· ∉ (e.update f).names) =
        (g.names.filter (· ∉ f.names)).filter (· ∉ e.names) := by
      rw [List.filter_filter]
      apply List.filter_congr
      intro name _
      simp [mem_names_update]
    rw [names_update, fresh, names_update, names_update, names_update, List.filter_append,
      List.append_assoc]
  · intro name
    rw [get?_update, get?_update, get?_update, get?_update, Option.or_assoc]

end Stepwise.Env
