import Stepwise.Proofs.Definition.Reading

/-! What readings find. Readings that stand together find the problems of both, a reading inside
another value puts one step before the places of its problems, and a list of items finds what each
item alone gives rise to. A reading that finds nothing comes to a result. -/
namespace Stepwise.Definition

namespace Reading

variable {α β : Type}

/-- A reading comes to its end with these problems, none of them if it comes to a result. -/
def Finds (r : Reading α) (ps : List Problem) : Prop :=
  (∃ a, r = .ok a) ∧ ps = [] ∨ r = .error (.problems ps)

/-- A reading breaks down. -/
def BreaksDown (r : Reading α) : Prop := ∃ f, r = .error (.fault f)

theorem finds_or_breaksDown (r : Reading α) : (∃ ps, r.Finds ps) ∨ r.BreaksDown := by
  rcases r with (ps | f) | a
  · exact .inl ⟨ps, .inr rfl⟩
  · exact .inr ⟨f, rfl⟩
  · exact .inl ⟨[], .inl ⟨⟨a, rfl⟩, rfl⟩⟩

theorem finds_ok_iff {r : Reading α} {a : α} (h : r = .ok a) {ps : List Problem} :
    r.Finds ps ↔ ps = [] := by
  subst h
  simp [Finds]

theorem finds_problems_iff {r : Reading α} {qs : List Problem} (h : r = .error (.problems qs))
    {ps : List Problem} : r.Finds ps ↔ ps = qs := by
  subst h
  simp [Finds, eq_comm]

theorem finds_both {x : Reading α} {y : Reading β} {all : List Problem} :
    (both x y).Finds all ↔ ∃ ps qs, x.Finds ps ∧ y.Finds qs ∧ all = ps ++ qs := by
  rcases x with (ps | f) | a <;> rcases y with (qs | g) | b <;> simp [both, Finds, eq_comm]

theorem finds_inside {p : Place} {x : Reading α} {all : List Problem} :
    (x.inside p).Finds all ↔ ∃ ps, x.Finds ps ∧ all = ps.map (Problem.inside p) := by
  rcases x with (ps | f) | a <;> simp [inside, Finds, eq_comm]

theorem finds_map {g : α → β} {x : Reading α} {ps : List Problem} :
    (g <$> x).Finds ps ↔ x.Finds ps := by
  rcases x with (qs | f) | a <;> simp [Finds, Functor.map, Except.map]

theorem breaksDown_both {x : Reading α} {y : Reading β} :
    (both x y).BreaksDown ↔ x.BreaksDown ∨ y.BreaksDown := by
  rcases x with (ps | f) | a <;> rcases y with (qs | g) | b <;> simp [both, BreaksDown]

theorem breaksDown_inside {p : Place} {x : Reading α} : (x.inside p).BreaksDown ↔ x.BreaksDown := by
  rcases x with (ps | f) | a <;> simp [inside, BreaksDown]

theorem breaksDown_map {g : α → β} {x : Reading α} : (g <$> x).BreaksDown ↔ x.BreaksDown := by
  rcases x with (ps | f) | a <;> simp [BreaksDown, Functor.map, Except.map]

def ending (r : Reading α) : Reading Unit := (fun _ => ()) <$> r

theorem ending_map (g : α → β) (x : Reading α) : (g <$> x).ending = x.ending := by
  cases x <;> rfl

theorem ending_inside (p : Place) (x : Reading α) : (x.inside p).ending = x.ending.inside p := by
  rcases x with (ps | f) | a <;> rfl

theorem ending_both_left (a : α) (y : Reading β) : (both (.ok a) y).ending = y.ending := by
  rcases y with (ps | f) | b <;> rfl

theorem ending_both_right (x : Reading α) (b : β) : (both x (.ok b)).ending = x.ending := by
  rcases x with (ps | f) | a <;> rfl

theorem ending_ok {r : Reading α} : (∃ u, r.ending = .ok u) ↔ ∃ a, r = .ok a := by
  cases r <;> simp [ending, Functor.map, Except.map]

theorem finds_ending {r : Reading α} {ps : List Problem} : r.ending.Finds ps ↔ r.Finds ps :=
  finds_map

theorem breaksDown_ending {r : Reading α} : r.ending.BreaksDown ↔ r.BreaksDown :=
  breaksDown_map

end Reading

open Reading

section Items

variable {α : Type} {read : Value → Reading α} {index : Nat} {vs : List Value}

/-- A list of items finds what each item finds, with the index of the item before it. -/
theorem finds_readItems {all : List Problem} : (readItems read index vs).Finds all ↔
    ∃ own : List (List Problem), List.Forall₂ (fun v ps => (read v).Finds ps) vs own ∧
      all = (own.zipIdx index).flatMap fun e => e.1.map (Problem.inside (.index e.2)) := by
  induction vs generalizing index all with
  | nil =>
    simp only [List.forall₂_nil_left_iff, exists_eq_left]
    simp [readItems, Finds]
  | cons v vs ih =>
    unfold readItems
    rw [finds_map, finds_both]
    simp only [finds_inside, ih, List.forall₂_cons_left_iff]
    constructor
    · rintro ⟨_, _, ⟨ps, first, rfl⟩, ⟨own, others, rfl⟩, rfl⟩
      exact ⟨ps :: own, ⟨ps, own, first, others, rfl⟩, by simp [List.zipIdx_cons]⟩
    · rintro ⟨_, ⟨ps, own, first, others, rfl⟩, rfl⟩
      exact ⟨_, _, ⟨ps, first, rfl⟩, ⟨own, others, rfl⟩, by simp [List.zipIdx_cons]⟩

theorem exists_readItems_eq_ok :
    (∃ as, readItems read index vs = .ok as) ↔ ∀ v ∈ vs, ∃ a, read v = .ok a := by
  simp only [readItems_eq_ok]
  induction vs with
  | nil => simp
  | cons v vs ih => simp [List.forall₂_cons_left_iff, ← ih]

theorem breaksDown_readItems : (readItems read index vs).BreaksDown ↔ ∃ v ∈ vs, (read v).BreaksDown := by
  induction vs generalizing index with
  | nil => simp [readItems, BreaksDown]
  | cons v vs ih =>
    unfold readItems
    rw [breaksDown_map, breaksDown_both, breaksDown_inside, ih]
    simp

end Items

/-- A reading that finds nothing comes to a result. -/
def Reading.Thorough {α : Type} (r : Reading α) : Prop := r ≠ .error (.problems [])

namespace Reading.Thorough

variable {α β : Type}

theorem ok (a : α) : Thorough (.ok a) := nofun

theorem complain (c : Complaint) : Thorough (Reading.complain c : Reading α) := nofun

theorem both {x : Reading α} {y : Reading β} (h : x.Thorough) (h' : y.Thorough) :
    (Reading.both x y).Thorough := by
  rcases x with (ps | f) | a <;> rcases y with (qs | g) | b <;>
    simp_all [Reading.both, Thorough]

theorem inside {x : Reading α} (h : x.Thorough) (p : Place) : (x.inside p).Thorough := by
  rcases x with (ps | f) | a <;> simp_all [Reading.inside, Thorough]

theorem map {x : Reading α} (h : x.Thorough) (g : α → β) : (g <$> x).Thorough := by
  rcases x with (ps | f) | a <;> simp_all [Functor.map, Except.map, Thorough]

theorem bind {x : Reading α} {g : α → Reading β} (h : x.Thorough) (h' : ∀ a, (g a).Thorough) :
    (x >>= g).Thorough := by
  rcases x with (ps | f) | a
  · simpa [Thorough, Bind.bind, Except.bind] using h
  · nofun
  · exact h' a

theorem finds_nil {r : Reading α} (h : r.Thorough) : r.Finds [] ↔ ∃ a, r = .ok a := by
  simp only [Finds, and_true]
  exact or_iff_left h

end Reading.Thorough

section Readers

variable {α : Type}

theorem readText_thorough (numbers : Numbers) (v : Value) : (readText numbers v).Thorough := by
  have whole : ∀ n, (readWhole n).Thorough := by
    intro n
    unfold readWhole
    split <;> nofun
  unfold readText
  split
  · exact .ok _
  · split
    · exact .ok _
    · exact .complain _
  · split
    · exact whole _
    · exact .complain _
  · split
    · exact .ok _
    · exact .complain _
  · exact .complain _

theorem readItems_thorough {read : Value → Reading α} (each : ∀ v, (read v).Thorough)
    (index : Nat) (vs : List Value) : (readItems read index vs).Thorough := by
  induction vs generalizing index with
  | nil => exact .ok _
  | cons v vs ih => exact ((each v).inside _ |>.both (ih _)).map _

theorem readList_thorough {read : Value → Reading α} (each : ∀ v, (read v).Thorough)
    (v : Value) : (readList read v).Thorough := by
  unfold readList
  split
  · exact readItems_thorough each 0 _
  · exact .complain _

theorem readField_thorough {read : Value → Reading α} (entries : List (Value × Value))
    (name : String) {absent : Reading α} (left : absent.Thorough) (each : ∀ v, (read v).Thorough) :
    (readField entries name absent read).Thorough := by
  unfold readField
  refine .inside ?_ _
  split
  · exact left
  · exact each _

theorem readOption_thorough {read : Value → Reading α} (each : ∀ v, (read v).Thorough)
    (v : Value) : (readOption read v).Thorough := by
  unfold readOption
  split
  · exact .ok _
  · exact (each v).map _

theorem readCommand_thorough (v : Value) : (readCommand v).Thorough := by
  have command : ∀ args, (toCommand args).Thorough := by
    intro args
    unfold toCommand
    split
    · exact .ok _
    · exact .complain _
  unfold readCommand
  split
  · split
    · exact command _
    · exact .complain _
  · exact .bind (readList_thorough (readText_thorough _) _) command

theorem readEnv_thorough (v : Value) : (readEnv v).Thorough := by
  have entries_thorough : ∀ entries, (readVariables entries).Thorough := by
    intro entries
    induction entries with
    | nil => exact .ok _
    | cons e entries ih =>
      have name := ((readText_thorough .asTexts e.1).inside keyPlace).inside (.ofKey e.1)
      have value := (readText_thorough .asTexts e.2).inside (.ofKey e.1)
      exact ((name.both value).both ih).map _
  unfold readEnv
  split
  · exact (entries_thorough _).map _
  · exact .complain _

theorem readStep_thorough (v : Value) : (readStep v).Thorough := by
  cases v with
  | map fields =>
    exact ((readField_thorough fields "run" (.complain _) readCommand_thorough).both
      ((readField_thorough fields "check" (.ok _) (readOption_thorough readCommand_thorough)).both
        ((readField_thorough fields "description" (.ok _) (readText_thorough _)).both
          ((readField_thorough fields "env" (.ok _) readEnv_thorough).both
            (readField_thorough fields "cwd" (.ok _)
              (readOption_thorough (readText_thorough _))))))).map _
  | _ => exact .complain _

end Readers

end Stepwise.Definition
