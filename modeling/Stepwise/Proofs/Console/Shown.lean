import Mathlib.Data.List.Infix
import Stepwise.Proofs.Console.Escaped
import Stepwise.Proofs.Console.Printing

/-! What is shown of a text. Between its tags a text changes where a backslash stands before a
bracket, where the name of a picture stands between colons, and where there are characters that are
never shown; a text without these is shown as it is. -/
namespace Stepwise.Console.Markup

section Parts

variable {cs ds : List Char}

theorem dropSlashes_append (h : cs.getLast? = some '\\' → ds.head? ≠ some '[') :
    dropSlashes (cs ++ ds) = dropSlashes cs ++ dropSlashes ds := by
  fun_induction dropSlashes cs with
  | case1 cs ih =>
    have later : cs.getLast? = some '\\' → ds.head? ≠ some '[' := by
      intro last
      apply h
      cases cs with
      | nil => cases last
      | cons c cs => simpa [List.getLast?_cons_cons] using last
    rw [List.cons_append, List.cons_append, dropSlashes, ih later]
    rfl
  | case2 c cs other ih =>
    have later : cs.getLast? = some '\\' → ds.head? ≠ some '[' := by
      intro last
      apply h
      cases cs with
      | nil => cases last
      | cons d cs => rwa [List.getLast?_cons_cons]
    have apart : ∀ rest, c = '\\' → cs ++ ds = '[' :: rest → False := by
      rintro rest rfl opening
      cases cs with
      | nil => exact h rfl (by rw [← List.nil_append ds, opening]; rfl)
      | cons d cs =>
        obtain ⟨rfl, -⟩ := List.cons.inj opening
        exact other cs rfl rfl
    rw [List.cons_append, dropSlashes.eq_2 _ _ apart, ih later]
    rfl
  | case3 => rfl

def namesPicture (c : Char) : Bool := !(c = ':' || Text.isBlank c)

theorem putPictures_name {after : List Char} (closed : cs.dropWhile namesPicture = ':' :: after) :
    putPictures (':' :: cs) =
      (picture? (cs.takeWhile namesPicture)).getD (':' :: cs.takeWhile namesPicture ++ [':']) ++
        putPictures after := by
  have rest : cs.drop (cs.takeWhile namesPicture).length = ':' :: after := by
    rw [drop_takeWhile, closed]
  unfold namesPicture at rest ⊢
  rw [putPictures, if_pos rfl]
  simp only
  split
  · rename_i more here
    rw [rest] at here
    cases here
    rfl
  · rename_i other
    exact absurd rest (other after)

theorem putPictures_colon (open' : ∀ after, cs.dropWhile namesPicture ≠ ':' :: after) :
    putPictures (':' :: cs) = ':' :: putPictures cs := by
  rw [putPictures, if_pos rfl]
  simp only
  split
  · rename_i more here
    have rest := drop_takeWhile namesPicture cs
    unfold namesPicture at rest open'
    rw [here] at rest
    exact absurd rest.symm (open' more)
  · rfl

theorem putPictures_other {c : Char} (h : c ≠ ':') : putPictures (c :: cs) = c :: putPictures cs := by
  rw [putPictures, if_neg h]

def Parted (cs ds : List Char) : Prop := ':' ∉ cs ∨ ∀ c, ds.head? = some c → Text.isBlank c

theorem Parted.of_suffix {pre : List Char} (h : Parted (pre ++ cs) ds) : Parted cs ds :=
  h.imp_left fun none member => none (List.mem_append_right pre member)

theorem Parted.tail {c : Char} (h : Parted (c :: cs) ds) : Parted cs ds :=
  h.imp_left fun none member => none (List.mem_cons_of_mem c member)

theorem takeWhile_append_of_closed {p : Char → Bool} {c : Char} {after : List Char}
    (closed : cs.dropWhile p = c :: after) (ds : List Char) :
    (cs ++ ds).takeWhile p = cs.takeWhile p := by
  have shorter : (cs.takeWhile p).length ≠ cs.length := by
    have all := congrArg List.length (List.takeWhile_append_dropWhile (p := p) (l := cs))
    rw [closed, List.length_append, List.length_cons] at all
    omega
  rw [List.takeWhile_append, if_neg shorter]

theorem unclosed_append (unclosed : ∀ after, cs.dropWhile namesPicture ≠ ':' :: after)
    (blank : ∀ c, ds.head? = some c → Text.isBlank c) (after : List Char) :
    (cs ++ ds).dropWhile namesPicture ≠ ':' :: after := by
  intro same
  rw [List.dropWhile_append] at same
  split at same
  · cases ds with
    | nil => cases same
    | cons d ds =>
      have stops : namesPicture d = false := by simp [namesPicture, blank d rfl]
      rw [List.dropWhile_cons_of_neg (by simp [stops])] at same
      obtain ⟨rfl, -⟩ := List.cons.inj same
      have colon := blank ':' rfl
      revert colon
      decide
  · cases rest : cs.dropWhile namesPicture with
    | nil => simp_all
    | cons d rest' =>
      rw [rest] at same
      obtain ⟨rfl, -⟩ := List.cons.inj same
      exact unclosed rest' rest

theorem putPictures_append (h : Parted cs ds) :
    putPictures (cs ++ ds) = putPictures cs ++ putPictures ds := by
  induction cs using putPictures.induct with
  | case1 => rw [List.nil_append, putPictures, List.nil_append]
  | case2 cs name after closed ih =>
    have rest : cs.dropWhile namesPicture = ':' :: after := by
      rw [← drop_takeWhile]
      exact closed
    have whole : ':' :: cs = (':' :: cs.takeWhile namesPicture ++ [':']) ++ after := by
      conv => lhs; rw [← List.takeWhile_append_dropWhile (p := namesPicture) (l := cs), rest]
      simp
    have longer : (cs ++ ds).dropWhile namesPicture = ':' :: (after ++ ds) := by
      rw [List.dropWhile_append, rest]
      rfl
    rw [whole] at h
    rw [List.cons_append, putPictures_name longer, takeWhile_append_of_closed rest ds,
      ih h.of_suffix, putPictures_name rest, List.append_assoc]
  | case3 cs name other ih =>
    have unclosed : ∀ after, cs.dropWhile namesPicture ≠ ':' :: after := by
      intro after same
      rw [← drop_takeWhile] at same
      exact other after same
    have blank : ∀ c, ds.head? = some c → Text.isBlank c := by
      rcases h with none | blank
      · exact absurd List.mem_cons_self none
      · exact blank
    rw [List.cons_append, putPictures_colon (unclosed_append unclosed blank), ih h.tail,
      putPictures_colon unclosed]
    rfl
  | case4 c cs other ih =>
    rw [List.cons_append, putPictures_other other, ih h.tail, putPictures_other other]
    rfl

theorem shownChars_append (slash : cs.getLast? = some '\\' → ds.head? ≠ some '[')
    (parted : Parted cs ds) : shownChars (cs ++ ds) = shownChars cs ++ shownChars ds := by
  have parted' : Parted (dropSlashes cs) (dropSlashes ds) := by
    rcases parted with none | blank
    · exact .inl fun member => none (dropSlashes_subset cs member)
    · refine .inr fun c head => ?_
      cases ds with
      | nil => cases head
      | cons d ds =>
        have first := blank d rfl
        have plain : ∀ rest, d = '\\' → ds = '[' :: rest → False := by
          rintro rest rfl -
          revert first
          decide
        rw [dropSlashes.eq_2 _ _ plain] at head
        cases head
        exact first
  rw [shownChars, dropSlashes_append slash, putPictures_append parted', List.filter_append]
  rfl

end Parts

section Kept

variable {cs part : List Char}

/-- A part of a text has no backslash before a bracket, no name of a picture between colons and no
character that is never shown. -/
structure Unchanged (part : List Char) : Prop where
  slash : ¬ ['\\', '['] <:+: part
  picture : putPictures part = part
  visible : ∀ c ∈ part, isHidden c = false

theorem dropSlashes_of_not_infix (h : ¬ ['\\', '['] <:+: cs) : dropSlashes cs = cs := by
  fun_induction dropSlashes cs with
  | case1 cs ih => exact absurd (List.prefix_append ['\\', '['] cs).isInfix h
  | case2 c cs other ih => rw [ih fun inside => h (inside.trans (List.suffix_cons c cs).isInfix)]
  | case3 => rfl

theorem putPictures_of_no_colon (h : ':' ∉ cs) : putPictures cs = cs := by
  induction cs with
  | nil => rw [putPictures]
  | cons c cs ih =>
    rw [List.mem_cons, not_or] at h
    rw [putPictures_other (Ne.symm h.1), ih h.2]

theorem Unchanged.shownChars_eq (h : Unchanged part) : shownChars part = part := by
  rw [shownChars, dropSlashes_of_not_infix h.slash, h.picture, List.filter_eq_self]
  intro c member
  simpa using h.visible c member

/-- A text of which every part is unchanged, and that does not end with a single backslash. -/
structure Kept (cs : List Char) : Prop where
  parts : ∀ part ∈ tagParts cs, Unchanged part
  last : Unchanged (lastPart cs)
  ends : endsInSlash cs = false

instance (part : List Char) : Decidable (Unchanged part) :=
  decidable_of_iff (¬ ['\\', '['] <:+: part ∧ putPictures part = part ∧
      part.all (!isHidden ·))
    ⟨fun ⟨slash, picture, visible⟩ => ⟨slash, picture, by simpa using visible⟩,
      fun ⟨slash, picture, visible⟩ => ⟨slash, picture, by simpa using visible⟩⟩

instance (cs : List Char) : Decidable (Kept cs) :=
  decidable_of_iff ((∀ part ∈ tagParts cs, Unchanged part) ∧ Unchanged (lastPart cs) ∧
      endsInSlash cs = false)
    ⟨fun ⟨parts, last, ends⟩ => ⟨parts, last, ends⟩, fun ⟨parts, last, ends⟩ => ⟨parts, last, ends⟩⟩

theorem Kept.shownText_eq (h : Kept cs) : shownText cs = cs := by
  have parts : (tagParts cs).flatMap shownChars = (tagParts cs).flatten := by
    rw [List.flatMap_def, List.map_congr_left fun part member => (h.parts part member).shownChars_eq,
      List.map_id']
  have end' : slashEnd cs = [] := by simp [slashEnd, h.ends]
  rw [shownText, parts, end', List.append_nil, h.last.shownChars_eq, flatten_parts]

end Kept

section Words

variable {opened : List (List Char)} {out post : List Char}

theorem wording_of_all {words : List Char}
    (h : words.all fun c => !(isBracket c || c = '\\' || c = ':' || isHidden c)) :
    ∀ c ∈ words, (isBracket c = false ∧ c ≠ '\\') ∧ c ≠ ':' ∧ isHidden c = false := by
  simpa [not_or, and_assoc] using h

theorem Shows.words {words : List Char}
    (plain : ∀ c ∈ words, (isBracket c = false ∧ c ≠ '\\') ∧ c ≠ ':' ∧ isHidden c = false)
    (h : Shows opened post out) : Shows opened (words ++ post) (words ++ out) := by
  have kept : shownChars words = words := by
    apply Unchanged.shownChars_eq
    constructor
    · rintro ⟨before, after, rfl⟩
      exact (plain '\\' (by simp)).1.2 rfl
    · exact putPictures_of_no_colon fun member => (plain ':' member).2.1 rfl
    · exact fun c member => (plain c member).2.2
  have none : nextTag? words = none := by
    cases found : nextTag? words with
    | none => rfl
    | some f =>
      obtain ⟨-, text, -⟩ := nextTag?_eq_some found
      have opening : '[' ∈ words := by
        rw [text, Found.text]
        simp [bracketed]
      cases (plain '[' opening).1.1
  have parted : Parted words (firstPart post) := .inl fun member => (plain ':' member).2.1 rfl
  have slash : words.getLast? ≠ some '\\' := fun last =>
    (plain '\\' (List.mem_of_getLast? last)).1.2 rfl
  have shows := Shows.lead none (.of_plain fun c member => (plain c member).1)
    (shownChars_append (fun last => absurd last slash) parted) h
  rwa [kept] at shows

theorem Shows.opening_tag {body : List Char} (isBody : isBody body)
    (opening : ∀ name, nameOf body ≠ '/' :: name)
    (h : Shows (styleName (nameOf body) :: opened) post out) :
    Shows opened (bracketed body ++ post) out := by
  simpa using Shows.of_opening (nextTag?_run isBody 0 post) rfl opening h

theorem Shows.closing_tag {body name : List Char} {opened' : List (List Char)} (isBody : isBody body)
    (closing : nameOf body = '/' :: name) (closes : close? (Text.trim name) opened = some opened')
    (h : Shows opened' post out) : Shows opened (bracketed body ++ post) out := by
  simpa using Shows.of_closing (nextTag?_run isBody 0 post) rfl closing closes h

/-- An escaped text right before a tag, if it does not end with a backslash. -/
theorem Shows.escaped_before {cs body after : List Char} (isBody : isBody body)
    (ends : cs.getLast? ≠ some '\\') (h : Shows opened (bracketed body ++ after) out) :
    Shows opened (Markup.escapeChars cs ++ (bracketed body ++ after)) (shownText cs ++ out) := by
  have none := slashEnd_of_getLast? ends
  have last : (lastPart cs ++ slashEnd cs).getLast? ≠ some '\\' := by
    rw [none, List.append_nil]
    rw [← flatten_parts cs, List.getLast?_append] at ends
    cases end' : (lastPart cs).getLast? with
    | none => nofun
    | some c => simpa [end'] using ends
  have first : firstPart (bracketed body ++ after) = [] := by
    have next := nextTag?_run isBody 0 after
    rw [List.replicate_zero, List.nil_append] at next
    simp [firstPart, next]
  refine Shows.escapeChars (.of_unclosing last ?_) ?_ h
  · exact ({ before := [], slashes := 0, body := body, after := after } : Found).closesFirst_tag after
  · rw [first, shownChars_nil, List.append_nil, List.append_nil]

theorem Shows.escaped_end (cs : List Char) :
    Shows opened (Markup.escapeChars cs) (shownText cs) := by
  have distributes : shownChars (lastPart cs ++ slashEnd cs ++ firstPart []) =
      shownChars (lastPart cs ++ slashEnd cs) ++ shownChars (firstPart []) := by
    have none : firstPart [] = [] := rfl
    rw [none, shownChars_nil, List.append_nil, List.append_nil]
  have shows := Shows.escapeChars (.nil _) distributes (.nil opened)
  rwa [List.append_nil, List.append_nil] at shows

end Words

end Stepwise.Console.Markup
