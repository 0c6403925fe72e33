import Stepwise.Definition.Problem
import Stepwise.Proofs.Text.Legible

/-! The messages about definitions can be written, whatever is in the document. Values are shown by
their numbers and between quotes, and the keys that lead to a problem have marks in place of what
has no octets. -/
namespace Stepwise

namespace Decimal

theorem legible_digits (n : Nat) : Legible (digits n) := by
  intro c member
  exact not_isLone_of_isDigit (Nat.isDigit_of_mem_toDigits (by decide) (by decide) member)

theorem legible_positional {ds : List Char} (h : Legible ds) (point : Int) :
    Legible (positional ds point) := by
  unfold positional
  split
  · exact .append (.cons (by decide) (.cons (by decide) (.replicate (by decide) _))) h
  · have whole : Legible (ds.take point.toNat) := h.sub (List.take_subset _ _)
    refine .append (whole.append (.replicate (by decide) _)) (.cons (by decide) ?_)
    split
    · decide
    · exact h.sub (List.drop_subset _ _)

theorem legible_scientific {ds : List Char} (h : Legible ds) (exponent : Int) :
    Legible (scientific ds exponent) := by
  have size : Legible (if (digits exponent.natAbs).length < 2 then '0' :: digits exponent.natAbs
      else digits exponent.natAbs) := by
    split
    · exact .cons (by decide) (legible_digits _)
    · exact legible_digits _
  have sign : Text.isLone (if exponent < 0 then '-' else '+') = false := by
    split <;> decide
  unfold scientific
  refine .append ?_ (.cons (by decide) (.cons sign size))
  split
  · obtain ⟨first, rest⟩ := h.of_cons
    exact .cons first (.cons (by decide) rest)
  · exact h

theorem legible_text (m : Magnitude) : Legible m.text := by
  cases m with
  | zero => decide
  | infinite => decide
  | notANumber => decide
  | finite x =>
    unfold Magnitude.text
    simp only
    split
    · decide
    · rename_i n grid found
      have kept : Legible (stripZeros (digits n)).1 := by
        apply (legible_digits n).sub
        intro c member
        exact List.mem_reverse.mp ((List.dropWhile_suffix _).subset (List.mem_reverse.mp member))
      split
      · exact legible_positional kept _
      · exact legible_scientific kept _

theorem legible_floatText (x : Float) : Legible (floatText x).toList := by
  unfold floatText
  simp only
  rw [String.toList_ofList]
  split
  · exact .cons (by decide) (legible_text _)
  · exact legible_text _

end Decimal

theorem Date.legible_display (d : Date) : Legible d.display.toList :=
  ((((Legible.string_append (by decide) (legible_nat d.year)).string_append
    (by decide)).string_append (legible_nat d.month)).string_append (by decide)).string_append
      (legible_nat d.day) |>.string_append (by decide)

theorem Moment.legible_displayOffset (offset : Int) : Legible (displayOffset offset).toList := by
  unfold displayOffset
  split
  · decide
  · refine (Legible.string_append (by decide) (.intercalate (by decide) ?_)).string_append (by decide)
    intro part member
    rcases List.mem_append.mp member with days | seconds
    · split at days
      · cases days
      · cases List.mem_singleton.mp days
        exact Legible.string_append (by decide) (legible_int _)
    · split at seconds
      · cases seconds
      · cases List.mem_singleton.mp seconds
        exact Legible.string_append (by decide) (legible_int _)

theorem Moment.legible_display (m : Moment) : Legible m.display.toList := by
  unfold display
  simp only
  refine (Legible.string_append (by decide) (.intercalate (by decide) ?_)).string_append (by decide)
  intro part member
  rcases List.mem_append.mp member with number | zone
  · obtain ⟨n, -, rfl⟩ := List.mem_map.mp number
    exact legible_nat n
  · split at zone
    · cases zone
    · cases List.mem_singleton.mp zone
      exact Legible.string_append (by decide) (legible_displayOffset _)

namespace Value

theorem legible_listed {parts : List String} (h : ∀ part ∈ parts, Legible part.toList) :
    Legible (listed parts).toList :=
  .intercalate (by decide) h

theorem legible_displayStep (s : Step) : Legible (displayStep s).toList := by
  have command : Legible (listed (s.command.map Text.quoted)).toList := by
    apply legible_listed
    intro part member
    obtain ⟨arg, -, rfl⟩ := List.mem_map.mp member
    exact Text.legible_quoted arg
  have env : Legible (listed (s.env.pairs.map fun p =>
      Text.quoted p.1 ++ ": " ++ Text.quoted p.2)).toList := by
    apply legible_listed
    intro part member
    obtain ⟨p, -, rfl⟩ := List.mem_map.mp member
    exact ((Text.legible_quoted p.1).string_append (by decide)).string_append
      (Text.legible_quoted p.2)
  have comma : Legible (if (s.command.map Text.quoted).length = 1 then "," else "").toList := by
    split <;> decide
  unfold displayStep
  refine (((((((Legible.string_append (by decide) command).string_append comma).string_append
    (by decide)).string_append (Text.legible_quoted _)).string_append (by decide)).string_append
      env).string_append (by decide)).string_append ?_ |>.string_append (by decide)
  split
  · exact Text.legible_quoted _
  · exact (Legible.string_append (by decide) (Text.legible_quoted _)).string_append (by decide)
  · decide

mutual

theorem legible_display : ∀ v : Value, Legible v.display.toList
  | .null => by decide
  | .bool b => by cases b <;> decide
  | .int n => by
    unfold display
    exact legible_int n
  | .float x => by
    unfold display
    exact Decimal.legible_floatText x
  | .text s => by
    unfold display
    exact Text.legible_quoted s
  | .bytes bs => by
    unfold display
    exact Text.legible_quotedBytes bs
  | .date d => by
    unfold display
    exact d.legible_display
  | .moment m => by
    unfold display
    exact m.legible_display
  | .list vs => by
    unfold display
    exact (Legible.string_append (by decide) (legible_displayAll vs)).string_append (by decide)
  | .tuple [] => by decide
  | .tuple [v] => by
    unfold display
    exact (Legible.string_append (by decide) (legible_display v)).string_append (by decide)
  | .tuple (v :: w :: vs) => by
    unfold display
    exact (Legible.string_append (by decide) (legible_displayAll (v :: w :: vs))).string_append
      (by decide)
  | .set vs => by
    unfold display
    split
    · decide
    · exact (Legible.string_append (by decide) (legible_displayAll vs)).string_append (by decide)
  | .map entries => by
    unfold display
    exact (Legible.string_append (by decide) (legible_displayEntries entries)).string_append
      (by decide)
  | .step s => by
    unfold display
    exact legible_displayStep s

theorem legible_displayAll : ∀ vs : List Value, Legible (displayAll vs).toList
  | [] => by decide
  | [v] => by
    unfold displayAll
    exact legible_display v
  | v :: w :: vs => by
    unfold displayAll
    exact ((legible_display v).string_append (by decide)).string_append (legible_displayAll (w :: vs))

theorem legible_displayEntries : ∀ es : List (Value × Value), Legible (displayEntries es).toList
  | [] => by decide
  | [(k, v)] => by
    unfold displayEntries
    exact ((legible_display k).string_append (by decide)).string_append (legible_display v)
  | (k, v) :: e :: rest => by
    unfold displayEntries
    exact ((((legible_display k).string_append (by decide)).string_append
      (legible_display v)).string_append (by decide)).string_append
        (legible_displayEntries (e :: rest))

end

end Value

namespace Definition

def Place.Written : Place → Prop
  | .key name => Legible name.toList
  | .index _ => True

theorem Place.written_key {name : String} (h : Legible name.toList) : (key name).Written := h

theorem Place.written_index (n : Int) : (index n).Written := trivial

theorem Place.legible_shownKey (s : String) : Legible (shownKey s).toList := by
  unfold shownKey
  rw [String.toList_ofList]
  intro c member
  obtain ⟨d, -, here⟩ := List.mem_flatMap.mp member
  split at here
  · rw [(List.mem_replicate.mp here).2]
    decide
  · rename_i fine
    cases List.mem_singleton.mp here
    simpa using fine

theorem Place.written_ofKey (v : Value) : (ofKey v).Written := by
  unfold ofKey
  split
  · exact legible_shownKey _
  · split
    · split
      · trivial
      · rename_i n _ _
        show Legible ((Value.wholeText? n).getD _).toList
        unfold Value.wholeText?
        simp only
        split
        · decide
        · exact legible_int n
    · exact Value.legible_display v

theorem Place.legible_extend {path : String} {p : Place} (h : Legible path.toList)
    (written : p.Written) : Legible (extend path p).toList := by
  cases p with
  | key name =>
    have named : Legible name.toList := written
    show Legible (if path = "" then name else path ++ "." ++ name).toList
    split
    · exact named
    · exact (h.string_append (by decide)).string_append named
  | index n =>
    show Legible (path ++ "[" ++ toString n ++ "]").toList
    exact ((h.string_append (by decide)).string_append (legible_int n)).string_append (by decide)

theorem Place.legible_pathText {path : List Place} (h : ∀ p ∈ path, p.Written) :
    Legible (pathText path).toList := by
  have text : ∀ (start : String), Legible start.toList →
      Legible (path.foldl extend start).toList := by
    intro start legible
    induction path generalizing start with
    | nil => exact legible
    | cons p path ih =>
      obtain ⟨first, rest⟩ := List.forall_mem_cons.mp h
      exact ih rest _ (legible_extend legible first)
  unfold pathText
  simp only
  split
  · decide
  · exact text "" (by decide)

/-- A problem that can be told in characters that can be written. -/
structure Problem.Written (p : Problem) : Prop where
  place : ∀ place ∈ p.place, place.Written
  complaint : Legible p.complaint.message.toList

theorem Problem.legible_report {problems : List Problem} (h : ∀ p ∈ problems, p.Written) :
    Legible (report problems).toList := by
  apply Legible.intercalate (by decide)
  intro part member
  obtain ⟨p, inside, rfl⟩ := List.mem_map.mp member
  obtain ⟨place, complaint⟩ := h p inside
  exact ((Legible.string_append (by decide) (Place.legible_pathText place)).string_append
    (by decide)).string_append complaint

theorem Complaint.legible_message (c : Complaint)
    (named : ∀ part, c = .noPart part → Legible part.toList) : Legible c.message.toList := by
  cases c with
  | noPart part => exact Legible.string_append (.ofList (by decide)) (named part rfl)
  | lineUnreadable line e =>
    have reason : Legible e.message.toList := by cases e <;> exact .ofList (by decide)
    exact ((Legible.string_append (.ofList (by decide)) (Text.legible_quoted line)).string_append
      (by decide)).string_append reason
  | _ => exact .ofList (by decide)

end Definition

end Stepwise
