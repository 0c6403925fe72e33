import Mathlib.Data.List.Forall2
import Stepwise.Definition.Read

/-! What a reading that comes to a result says of its parts. Two readings that stand together both
come to theirs, a list is read item by item, and a part is a map whose fields are read or left
out. -/
namespace Stepwise.Definition

namespace Reading

variable {α β : Type}

theorem both_eq_ok {x : Reading α} {y : Reading β} {a : α} {b : β} :
    both x y = .ok (a, b) ↔ x = .ok a ∧ y = .ok b := by
  rcases x with (ps | f) | a' <;> rcases y with (qs | g) | b' <;> simp [both]

theorem inside_eq_ok {p : Place} {x : Reading α} {a : α} : x.inside p = .ok a ↔ x = .ok a := by
  rcases x with (ps | f) | a' <;> simp [inside]

theorem map_eq_ok {f : α → β} {x : Reading α} {b : β} :
    f <$> x = .ok b ↔ ∃ a, x = .ok a ∧ f a = b := by
  cases x <;> simp [Functor.map, Except.map]

theorem bind_eq_ok {x : Reading α} {f : α → Reading β} {b : β} :
    x >>= f = .ok b ↔ ∃ a, x = .ok a ∧ f a = .ok b := by
  cases x <;> simp [bind, Except.bind]

end Reading

open Reading

section Fields

variable {α : Type}

theorem readField_eq_ok {entries : List (Value × Value)} {name : String} {absent : Reading α}
    {read : Value → Reading α} {a : α} :
    readField entries name absent read = .ok a ↔
      (∃ v, Value.field? entries name = some v ∧ read v = .ok a) ∨
        (Value.field? entries name = none ∧ absent = .ok a) := by
  unfold readField
  rw [inside_eq_ok]
  cases Value.field? entries name <;> simp

theorem readField_given {entries : List (Value × Value)} {name : String} {v : Value}
    (given : Value.field? entries name = some v) (absent : Reading α) (read : Value → Reading α) :
    readField entries name absent read = (read v).inside (.key name) := by
  simp only [readField, given]

theorem readField_absent {entries : List (Value × Value)} {name : String}
    (left : Value.field? entries name = none) (absent : Reading α) (read : Value → Reading α) :
    readField entries name absent read = absent.inside (.key name) := by
  simp only [readField, left]

theorem readRequired_eq_ok {entries : List (Value × Value)} {name : String} {c : Complaint}
    {read : Value → Reading α} {a : α} :
    readField entries name (complain c) read = .ok a ↔
      ∃ v, Value.field? entries name = some v ∧ read v = .ok a := by
  rw [readField_eq_ok]
  simp [complain]

theorem readPart_eq_ok {part : String} {read : List (Value × Value) → Reading α} {v : Value}
    {a : α} : readPart part read v = .ok a ↔ ∃ entries, v = .map entries ∧ read entries = .ok a := by
  cases v <;> simp [readPart, complain]

theorem readItems_eq_ok {read : Value → Reading α} {index : Nat} {vs : List Value} {as : List α} :
    readItems read index vs = .ok as ↔ List.Forall₂ (fun v a => read v = .ok a) vs as := by
  induction vs generalizing index as with
  | nil =>
    rw [List.forall₂_nil_left_iff]
    exact ⟨fun h => (Except.ok.inj h).symm, fun h => h ▸ rfl⟩
  | cons v vs ih =>
    unfold readItems
    rw [map_eq_ok]
    constructor
    · rintro ⟨⟨a, rest⟩, h, rfl⟩
      obtain ⟨first, others⟩ := both_eq_ok.mp h
      exact .cons (inside_eq_ok.mp first) (ih.mp others)
    · intro h
      cases h with
      | @cons _ a _ rest first others =>
        exact ⟨(a, rest), both_eq_ok.mpr ⟨inside_eq_ok.mpr first, ih.mpr others⟩, rfl⟩

theorem readList_eq_ok {read : Value → Reading α} {v : Value} {as : List α} :
    readList read v = .ok as ↔
      ∃ items, listItems? v = some items ∧ List.Forall₂ (fun v a => read v = .ok a) items as := by
  unfold readList
  cases listItems? v with
  | none => simp [complain]
  | some items => simp [readItems_eq_ok]

end Fields

def Lists (document : Value) (items : List Value) : Prop :=
  ∃ entries spec steps, document = .map entries ∧ Value.field? entries "spec" = some (.map spec) ∧
    Value.field? spec "steps" = some steps ∧ listItems? steps = some items

theorem steps_of_read {document : Value} {d : Definition} (h : read document = .ok d) :
    ∃ items, Lists document items ∧
      List.Forall₂ (fun item s => readStep item = .ok s) items d.spec.steps := by
  obtain ⟨entries, rfl, fields⟩ := readPart_eq_ok.mp h
  obtain ⟨⟨_, _, metadata, spec⟩, parts, rfl⟩ := map_eq_ok.mp fields
  have spec_read := (both_eq_ok.mp (both_eq_ok.mp (both_eq_ok.mp parts).2).2).2
  obtain ⟨v, spec_there, inner⟩ := readRequired_eq_ok.mp spec_read
  obtain ⟨specEntries, rfl, specFields⟩ := readPart_eq_ok.mp inner
  obtain ⟨⟨steps, mode, env⟩, specParts, rfl⟩ := map_eq_ok.mp specFields
  obtain ⟨list, steps_there, stepsRead⟩ := readRequired_eq_ok.mp (both_eq_ok.mp specParts).1
  obtain ⟨all, listed, kept⟩ := bind_eq_ok.mp stepsRead
  obtain ⟨items, is_list, each⟩ := readList_eq_ok.mp listed
  have same : steps.val = all := by
    split at kept
    · cases kept
    · cases kept
      rfl
  refine ⟨items, ⟨entries, specEntries, list, rfl, spec_there, steps_there, is_list⟩, ?_⟩
  show List.Forall₂ _ items steps.val
  rw [same]
  exact each

end Stepwise.Definition
