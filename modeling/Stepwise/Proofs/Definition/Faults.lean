import Stepwise.Definition.Read
import Stepwise.Proofs.Definition.Messages

/-! How the reading of a definition fails. Every value of the wrong form is a problem that is kept
with its place and can be told; only a whole number with too many digits ends the reading at once,
wherever it stands in the document. -/
namespace Stepwise

open Definition (listItems?)

/-- A value stands somewhere in another one. -/
inductive Value.Inside (w : Value) : Value → Prop where
  | here : Inside w w
  | item {v part : Value} {items : List Value} (list : listItems? v = some items)
      (member : part ∈ items) (inside : Inside w part) : Inside w v
  | key {k v : Value} {entries : List (Value × Value)} (member : (k, v) ∈ entries)
      (inside : Inside w k) : Inside w (.map entries)
  | value {k v : Value} {entries : List (Value × Value)} (member : (k, v) ∈ entries)
      (inside : Inside w v) : Inside w (.map entries)

theorem Value.Inside.trans {u v w : Value} (inner : Inside u v) (outer : Inside v w) :
    Inside u w := by
  induction outer with
  | here => exact inner
  | item list member _ ih => exact .item list member ih
  | key member _ ih => exact .key member ih
  | value member _ ih => exact .value member ih

theorem Value.inside_of_field? {entries : List (Value × Value)} {name : String} {v : Value}
    (h : field? entries name = some v) : Inside v (.map entries) := by
  obtain ⟨⟨k, _⟩, found, rfl⟩ := Option.map_eq_some_iff.mp h
  exact .value (List.mem_of_find?_eq_some found) .here

namespace Definition

open Reading

def wholeFault : Fault :=
  .value ("Exceeds the limit (" ++ toString Value.digitLimit ++
    " digits) for integer string conversion; " ++
    "use sys.set_int_max_str_digits() to increase the limit")

/-- A fault that a value gives rise to: there is a whole number in it that is too long. -/
def Overlong (v : Value) (f : Fault) : Prop :=
  f = wholeFault ∧ ∃ n, Value.Inside (.int n) v ∧ Value.digitLimit < (toString n.natAbs).length

/-- A reading of a value, or of something in it, that fails in its own ways only: it breaks where
the value gives rise to it, and what it complains about can be written. -/
structure FailsFor {α : Type} (v : Value) (r : Reading α) : Prop where
  breaks : ∀ f, r = .error (.fault f) → Overlong v f
  complains : ∀ ps, r = .error (.problems ps) → ∀ p ∈ ps, p.Written

namespace FailsFor

variable {α β : Type} {v w : Value}

theorem ok (a : α) : FailsFor v (.ok a) := ⟨nofun, nofun⟩

theorem complain {c : Complaint} (named : ∀ part, c = .noPart part → Legible part.toList) :
    FailsFor v (Reading.complain c : Reading α) where
  breaks := nofun
  complains := by
    rintro ps ⟨⟩ p member
    cases List.mem_singleton.mp member
    exact ⟨by simp, c.legible_message named⟩

theorem both {x : Reading α} {y : Reading β} (h : FailsFor v x) (h' : FailsFor v y) :
    FailsFor v (Reading.both x y) where
  breaks := by
    intro f broken
    rcases x with (ps | g) | a <;> rcases y with (qs | g') | b <;> cases broken
    · exact h'.breaks f rfl
    · exact h.breaks f rfl
    · exact h.breaks f rfl
    · exact h.breaks f rfl
    · exact h'.breaks f rfl
  complains := by
    intro all told
    rcases x with (ps | g) | a <;> rcases y with (qs | g') | b <;> cases told
    · exact List.forall_mem_append.mpr ⟨h.complains ps rfl, h'.complains qs rfl⟩
    · exact h.complains _ rfl
    · exact h'.complains _ rfl

theorem inside {place : Place} (written : place.Written) {x : Reading α} (h : FailsFor v x) :
    FailsFor v (x.inside place) where
  breaks := by
    intro f broken
    rcases x with (ps | g) | a <;> cases broken
    exact h.breaks f rfl
  complains := by
    intro all told
    rcases x with (ps | g) | a <;> cases told
    intro p member
    obtain ⟨q, inside, rfl⟩ := List.mem_map.mp member
    obtain ⟨path, complaint⟩ := h.complains ps rfl q inside
    exact ⟨List.forall_mem_cons.mpr ⟨written, path⟩, complaint⟩

theorem map {g : α → β} {x : Reading α} (h : FailsFor v x) : FailsFor v (g <$> x) where
  breaks := by
    intro f broken
    rcases x with e | a <;> cases broken
    exact h.breaks f rfl
  complains := by
    intro ps told
    rcases x with e | a <;> cases told
    exact h.complains ps rfl

theorem bind {x : Reading α} {g : α → Reading β} (h : FailsFor v x)
    (h' : ∀ a, FailsFor v (g a)) : FailsFor v (x >>= g) := by
  rcases x with e | a
  · constructor
    · rintro f ⟨⟩
      exact h.breaks f rfl
    · rintro ps ⟨⟩
      exact h.complains ps rfl
  · exact h' a

theorem whole {r : Reading α} (h : FailsFor v r) (part : Value.Inside v w) : FailsFor w r where
  breaks := by
    intro f broken
    obtain ⟨which, n, inner, long⟩ := h.breaks f broken
    exact ⟨which, n, inner.trans part, long⟩
  complains := h.complains

end FailsFor

section Readers

variable {α : Type}

theorem readWhole_fails (n : Int) : FailsFor (.int n) (readWhole n) := by
  unfold readWhole
  split
  · exact .ok _
  · rename_i none
    refine ⟨?_, nofun⟩
    rintro f ⟨⟩
    unfold Value.wholeText? at none
    simp only at none
    split at none
    · rename_i long
      exact ⟨rfl, n, .here, long⟩
    · cases none

theorem readText_fails (numbers : Numbers) (v : Value) : FailsFor v (readText numbers v) := by
  unfold readText
  split
  · exact .ok _
  · split
    · exact .ok _
    · exact .complain nofun
  · split
    · exact readWhole_fails _
    · exact .complain nofun
  · split
    · exact .ok _
    · exact .complain nofun
  · exact .complain nofun

theorem readWord_fails (v : Value) : FailsFor v (readWord v) := by
  refine .bind (readText_fails _ v) fun s => ?_
  split
  · exact .complain nofun
  · exact .ok _

theorem readItems_fails {read : Value → Reading α} {v : Value} {index : Nat} {items : List Value}
    (each : ∀ item ∈ items, FailsFor v (read item)) : FailsFor v (readItems read index items) := by
  induction items generalizing index with
  | nil => exact .ok _
  | cons item items ih =>
    obtain ⟨first, others⟩ := List.forall_mem_cons.mp each
    exact .map (.both (first.inside (Place.written_index _)) (ih others))

theorem readList_fails {read : Value → Reading α} (each : ∀ v, FailsFor v (read v)) (v : Value) :
    FailsFor v (readList read v) := by
  unfold readList
  split
  · rename_i items list
    exact readItems_fails fun item member => (each item).whole (.item list member .here)
  · exact .complain nofun

theorem readField_fails {entries : List (Value × Value)} {name : String} {absent : Reading α}
    {read : Value → Reading α} (named : Legible name.toList) (left : FailsFor (.map entries) absent)
    (each : ∀ v, FailsFor v (read v)) :
    FailsFor (.map entries) (readField entries name absent read) := by
  unfold readField
  refine .inside (Place.written_key named) ?_
  split
  · exact left
  · rename_i v given
    exact (each v).whole (Value.inside_of_field? given)

theorem readOption_fails {read : Value → Reading α} (each : ∀ v, FailsFor v (read v))
    (v : Value) : FailsFor v (readOption read v) := by
  unfold readOption
  split
  · exact .ok _
  · exact .map (each v)

theorem readPart_fails {part : String} {read : List (Value × Value) → Reading α}
    (named : Legible part.toList) (each : ∀ entries, FailsFor (.map entries) (read entries))
    (v : Value) : FailsFor v (readPart part read v) := by
  unfold readPart
  split
  · exact each _
  · refine .complain ?_
    rintro _ ⟨⟩
    exact named

theorem toCommand_fails (v : Value) (args : List String) : FailsFor v (toCommand args) := by
  unfold toCommand
  split
  · exact .ok _
  · exact .complain nofun

theorem readCommand_fails (v : Value) : FailsFor v (readCommand v) := by
  unfold readCommand
  split
  · split
    · exact toCommand_fails _ _
    · exact .complain nofun
  · exact .bind (readList_fails (readText_fails _) v) (toCommand_fails v)

theorem readVariables_fails {v : Value} {entries : List (Value × Value)}
    (each : ∀ e ∈ entries, Value.Inside e.1 v ∧ Value.Inside e.2 v) :
    FailsFor v (readVariables entries) := by
  induction entries with
  | nil => exact .ok _
  | cons e entries ih =>
    obtain ⟨⟨key, value⟩, others⟩ := List.forall_mem_cons.mp each
    have place := Place.written_ofKey e.1
    have name := ((readText_fails .asTexts e.1).whole key).inside
      (Place.written_key (by decide) : keyPlace.Written)
    have text := ((readText_fails .asTexts e.2).whole value).inside place
    exact .map (.both (.both (name.inside place) text) (ih others))

theorem readEnv_fails (v : Value) : FailsFor v (readEnv v) := by
  unfold readEnv
  split
  · exact .map (readVariables_fails fun e member => ⟨.key member .here, .value member .here⟩)
  · exact .complain nofun

theorem readStep_fails (v : Value) : FailsFor v (readStep v) := by
  refine readPart_fails (by decide) (fun entries => .map (.both ?run (.both ?check (.both ?description
    (.both ?env ?cwd))))) v
  case run => exact readField_fails (by decide) (.complain nofun) readCommand_fails
  case check => exact readField_fails (by decide) (.ok _) (readOption_fails readCommand_fails)
  case description => exact readField_fails (by decide) (.ok _) (readText_fails _)
  case env => exact readField_fails (by decide) (.ok _) readEnv_fails
  case cwd => exact readField_fails (by decide) (.ok _) (readOption_fails (readText_fails _))

theorem readSlug_fails (v : Value) : FailsFor v (readSlug v) := by
  refine .bind (readWord_fails v) fun name => ?_
  split
  · exact .ok _
  · exact .complain nofun

theorem readMetadata_fails (v : Value) : FailsFor v (readMetadata v) := by
  refine readPart_fails (by decide) (fun entries => .map (.both ?name ?description)) v
  case name => exact readField_fails (by decide) (.complain nofun) readSlug_fails
  case description => exact readField_fails (by decide) (.ok _) (readText_fails _)

theorem readSteps_fails (v : Value) : FailsFor v (readSteps v) := by
  refine .bind (readList_fails readStep_fails v) fun steps => ?_
  split
  · exact .complain nofun
  · exact .ok _

theorem readMode_fails (v : Value) : FailsFor v (readMode v) := by
  unfold readMode
  split
  · exact .ok _
  · exact .ok _
  · split
    · exact .complain nofun
    · exact .complain nofun
  · exact .complain nofun

theorem readSpec_fails (v : Value) : FailsFor v (readSpec v) := by
  refine readPart_fails (by decide) (fun entries => .map (.both ?steps (.both ?mode ?env))) v
  case steps => exact readField_fails (by decide) (.complain nofun) readSteps_fails
  case mode => exact readField_fails (by decide) (.ok _) readMode_fails
  case env => exact readField_fails (by decide) (.ok _) readEnv_fails

theorem readVersion_fails (v : Value) : FailsFor v (readVersion v) := by
  unfold readVersion
  split
  · split
    · exact .complain nofun
    · split
      · exact .ok _
      · exact .complain nofun
  · split
    · exact .ok _
    · exact .complain nofun
  · exact .complain nofun

theorem readKind_fails (v : Value) : FailsFor v (readKind v) := by
  unfold readKind
  split
  · split
    · exact .complain nofun
    · split
      · exact .ok _
      · exact .complain nofun
  · exact .complain nofun

/-- The reading of a document breaks only where a whole number in it has too many digits to be
written, and otherwise complains of what can be told. -/
theorem read_fails (v : Value) : FailsFor v (read v) := by
  refine readPart_fails (by decide) (fun entries => .map (.both ?version (.both ?kind (.both ?metadata
    ?spec)))) v
  case version => exact readField_fails (by decide) (.complain nofun) readVersion_fails
  case kind => exact readField_fails (by decide) (.complain nofun) readKind_fails
  case metadata => exact readField_fails (by decide) (.complain nofun) readMetadata_fails
  case spec => exact readField_fails (by decide) (.complain nofun) readSpec_fails

end Readers

end Definition

end Stepwise
