import Stepwise.World

/-! What writing does to a tree of files. A file that is written stands at its place with the octets
that were written, and whatever stands elsewhere is as it was. -/
namespace Stepwise.World

theorem lookup_replace {place other : List String} (apart : other ≠ place) (e : Entry)
    (entries : List (List String × Entry)) :
    (entries.map fun p => if p.1 = place then (place, e) else p).lookup other =
      entries.lookup other := by
  induction entries with
  | nil => rfl
  | cons p rest ih =>
    obtain ⟨n, entry⟩ := p
    by_cases same : n = place
    · subst same
      simp [List.lookup_cons, beq_false_of_ne apart, ih]
    · simp [List.lookup_cons, same, ih]

theorem lookup_replace_self {place : List String} (e : Entry)
    {entries : List (List String × Entry)} (there : (entries.lookup place).isSome) :
    (entries.map fun p => if p.1 = place then (place, e) else p).lookup place = some e := by
  induction entries with
  | nil => cases there
  | cons p rest ih =>
    obtain ⟨n, entry⟩ := p
    by_cases same : n = place
    · simp [same]
    · have apart : place ≠ n := fun eq => same eq.symm
      have later : (rest.lookup place).isSome := by
        simpa [List.lookup_cons, beq_false_of_ne apart] using there
      simpa [List.lookup_cons, same, beq_false_of_ne apart] using ih later

theorem lookup_append (place other : List String) (e : Entry)
    (entries : List (List String × Entry)) : (entries ++ [(place, e)]).lookup other =
      (entries.lookup other).or (if other = place then some e else none) := by
  induction entries with
  | nil =>
    by_cases same : other = place
    · simp [same]
    · simp [List.lookup_cons, same, beq_false_of_ne same]
  | cons p rest ih =>
    obtain ⟨n, entry⟩ := p
    by_cases same : other = n
    · simp [same]
    · simp [List.lookup_cons, beq_false_of_ne same, ih]

theorem at?_of_ne_nil (w : World) {place : List String} (h : place ≠ []) :
    w.at? place = w.entries.lookup place := by
  have filled : place.isEmpty = false := by simpa using h
  simp [at?, filled]

theorem at?_put_of_ne (w : World) {place other : List String} (apart : other ≠ place) (e : Entry) :
    (w.put place e).at? other = w.at? other := by
  by_cases root : other = []
  · simp [at?, root]
  · rw [at?_of_ne_nil _ root, at?_of_ne_nil _ root]
    unfold put
    split
    · exact lookup_replace apart e w.entries
    · simp [lookup_append, apart]

theorem at?_put_self (w : World) {place : List String} (h : place ≠ []) (e : Entry) :
    (w.put place e).at? place = some e := by
  have before := w.at?_of_ne_nil h
  rw [at?_of_ne_nil _ h]
  unfold put
  split
  · rename_i there
    exact lookup_replace_self e (before ▸ there)
  · rename_i missing
    rw [before, Option.not_isSome_iff_eq_none] at missing
    simp [lookup_append, missing]

/-- One tree comes of another by writing octets to the file that a path leads to. -/
structure Wrote (w : World) (path : String) (bytes : List UInt8) (place : List String)
    (w' : World) : Prop where
  leads : w.placeFor path = .ok place
  there : ∃ executable, w'.at? place = some (.file bytes executable)
  others : ∀ other, other ≠ place → w'.at? other = w.at? other
  home : w'.home = w.home

theorem placeFor_ne_nil {w : World} {path : String} {place : List String}
    (h : w.placeFor path = .ok place) : place ≠ [] := by
  unfold placeFor at h
  split at h
  · cases h
  · split at h
    · cases h
    · simp only [bind, Except.bind] at h
      split at h
      · cases h
      · split at h
        · cases h
        · split at h
          · split at h
            · cases h
            · split at h
              · cases h
              · cases h
                exact List.append_ne_nil_of_right_ne_nil _ (List.cons_ne_nil _ _)
          · cases h

theorem home_put (w : World) (place : List String) (e : Entry) : (w.put place e).home = w.home := by
  unfold put
  split <;> rfl

theorem wrote_put {w : World} {path : String} {place : List String}
    (leads : w.placeFor path = .ok place) (bytes : List UInt8) (executable : Bool) :
    Wrote w path bytes place (w.put place (.file bytes executable)) where
  leads := leads
  there := ⟨executable, w.at?_put_self (placeFor_ne_nil leads) _⟩
  others _ apart := w.at?_put_of_ne apart _
  home := w.home_put _ _

theorem wrote_of_write {w w' : World} {path : String} {bytes : List UInt8}
    (h : w.write path bytes = .ok w') : ∃ place, Wrote w path bytes place w' := by
  unfold write at h
  cases leads : w.placeFor path with
  | error e =>
    rw [leads] at h
    cases h
  | ok place =>
    rw [leads] at h
    simp only [bind, Except.bind] at h
    split at h
    · cases h
    · cases h
      exact ⟨place, wrote_put leads bytes _⟩
    · cases h
      exact ⟨place, wrote_put leads bytes _⟩

end Stepwise.World
