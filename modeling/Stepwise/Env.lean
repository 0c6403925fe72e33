/-!
Environments: variables with their values in the order in which they were first set. Setting a
variable again changes its value and not its place. `get?` is the view through which environments
are compared: two of them mean the same if every variable has the same value in both.
-/
namespace Stepwise

def setPair (name value : String) : List (String × String) → List (String × String)
  | [] => [(name, value)]
  | (n, v) :: rest => if n = name then (n, value) :: rest else (n, v) :: setPair name value rest

theorem mem_setPair_names {name value n : String} {pairs : List (String × String)} :
    n ∈ (setPair name value pairs).map Prod.fst ↔ n = name ∨ n ∈ pairs.map Prod.fst := by
  induction pairs with
  | nil => simp [setPair]
  | cons p rest ih =>
    by_cases h : p.1 = name
    · simp [setPair, h]
    · simp only [setPair, h, if_false, List.map_cons, List.mem_cons, ih]
      constructor
      · rintro (h | h | h) <;> simp [h]
      · rintro (h | h | h) <;> simp [h]

theorem setPair_nodup {name value : String} {pairs : List (String × String)}
    (h : (pairs.map Prod.fst).Nodup) : ((setPair name value pairs).map Prod.fst).Nodup := by
  induction pairs with
  | nil => simp [setPair]
  | cons p rest ih =>
    simp only [List.map_cons, List.nodup_cons] at h
    by_cases hp : p.1 = name
    · simp only [setPair, hp, if_true, List.map_cons, List.nodup_cons]
      exact ⟨hp ▸ h.1, h.2⟩
    · simp only [setPair, hp, if_false, List.map_cons, List.nodup_cons]
      exact ⟨fun hm => (mem_setPair_names.1 hm).elim hp h.1, ih h.2⟩

theorem lookup_setPair (name value n : String) (pairs : List (String × String)) :
    (setPair name value pairs).lookup n = if n = name then some value else pairs.lookup n := by
  induction pairs with
  | nil =>
    by_cases h : n = name
    · simp [setPair, h]
    · simp [setPair, List.lookup_cons, h, beq_false_of_ne h]
  | cons p rest ih =>
    obtain ⟨m, v⟩ := p
    by_cases hm : m = name
    · by_cases h : n = name
      · simp [setPair, hm, h]
      · simp [setPair, hm, List.lookup_cons, h, beq_false_of_ne h]
    · by_cases h : n = m
      · simp [setPair, hm, h]
      · simp [setPair, hm, List.lookup_cons, beq_false_of_ne h, ih]

structure Env where
  pairs : List (String × String)
  nodup : (pairs.map Prod.fst).Nodup

namespace Env

instance : DecidableEq Env := fun a b =>
  if h : a.pairs = b.pairs then isTrue (by cases a; cases b; simp_all)
  else isFalse fun e => h (e ▸ rfl)

@[ext] theorem ext_pairs {a b : Env} (h : a.pairs = b.pairs) : a = b := by
  cases a; cases b; simp_all

def empty : Env := ⟨[], List.nodup_nil⟩

instance : EmptyCollection Env := ⟨empty⟩

instance : Inhabited Env := ⟨empty⟩

def isEmpty (e : Env) : Bool := e.pairs.isEmpty

def names (e : Env) : List String := e.pairs.map Prod.fst

def get? (e : Env) (name : String) : Option String := e.pairs.lookup name

def set (e : Env) (name value : String) : Env :=
  ⟨setPair name value e.pairs, setPair_nodup e.nodup⟩

theorem get?_set (e : Env) (name value n : String) :
    (e.set name value).get? n = if n = name then some value else e.get? n :=
  lookup_setPair name value n e.pairs

def update (e f : Env) : Env :=
  f.pairs.foldl (fun acc p => acc.set p.1 p.2) e

def ofPairs (pairs : List (String × String)) : Env :=
  pairs.foldl (fun acc p => acc.set p.1 p.2) empty

def mapValues (f : String → String → String) (e : Env) : Env where
  pairs := e.pairs.map fun p => (p.1, f p.1 p.2)
  nodup := by simpa [Function.comp_def] using e.nodup

def Same (e f : Env) : Prop := ∀ name, e.get? name = f.get? name

def same (e f : Env) : Bool :=
  e.pairs.length = f.pairs.length && e.pairs.all fun p => f.get? p.1 = some p.2

end Env

end Stepwise
