import Stepwise.Proofs.Console.Shown

/-! Two escaped texts on one line, with an equal sign between them. Each text is escaped by itself, so
that a bracket that the first one leaves open and the second one closes makes a tag that neither of
them has. The line has no other tag, and where it has none it shows both texts. -/
namespace Stepwise.Console.Markup

section Ends

variable {cs pre post body rest after : List Char}

theorem endsOdd_append (odd : Bool) (pre post : List Char) :
    endsOdd odd (pre ++ post) = endsOdd (endsOdd odd pre) post := by
  induction pre generalizing odd with
  | nil => rfl
  | cons c pre ih => exact ih _

theorem getLast?_bracketed (body : List Char) : (bracketed body).getLast? = some ']' := by
  rw [bracketed, List.getLast?_append]
  rfl

theorem getLast?_of_endsOdd (h : endsOdd false cs = true) : cs.getLast? = some '\\' := by
  rcases List.eq_nil_or_concat cs with rfl | ⟨pre, c, rfl⟩
  · cases h
  · rw [List.concat_eq_append, endsOdd_append] at h
    have slash : c = '\\' := by
      by_contra other
      simp [endsOdd, oddAfter, other] at h
    rw [List.concat_eq_append, slash, List.getLast?_append]
    rfl

theorem getLast?_escapeTags (cs : List Char) : (escapeTags cs).getLast? = cs.getLast? := by
  induction cs using escapeTags.induct with
  | case1 cs none => rw [escapeTags_of_none none]
  | case2 cs f found ih =>
    obtain ⟨-, text, -⟩ := nextTag?_eq_some found
    rw [escapeTags_of_some found]
    conv => rhs; rw [text, Found.text]
    simp only [List.getLast?_append, ih, getLast?_bracketed, Option.or_some]
    cases f.after.getLast? <;> rfl

theorem getLast?_lastPart (h : cs.getLast? = some '\\') : (lastPart cs).getLast? = some '\\' := by
  induction cs using escapeTags.induct with
  | case1 cs none => rwa [(parts_of_none none).2]
  | case2 cs f found ih =>
    obtain ⟨-, text, -⟩ := nextTag?_eq_some found
    rw [text, Found.text] at h
    simp only [List.getLast?_append, getLast?_bracketed, Option.or_some] at h
    rw [(parts_of_some found).2]
    cases last : f.after.getLast? with
    | none =>
      rw [last] at h
      cases h
    | some c =>
      rw [last] at h
      exact ih (last.trans h)

theorem lastPart_suffix (cs : List Char) : lastPart cs <:+ escapeTags cs := by
  induction cs using escapeTags.induct with
  | case1 cs none =>
    exact ⟨[], (parts_of_none none).2.trans (escapeTags_of_none none).symm⟩
  | case2 cs f found ih =>
    rw [(parts_of_some found).2, escapeTags_of_some found]
    simp only [← List.append_assoc]
    exact ih.trans (List.suffix_append _ _)

theorem Unjoined.of_suffix {start : List Char} (h : Unjoined (start ++ pre) post) :
    Unjoined pre post := by
  rintro before body rest after rfl rfl
  exact h (start ++ before) body rest after (by rw [List.append_assoc]) rfl

theorem closesFirst_append_of_unclosing (h : closesFirst post = false) (pre : List Char) :
    closesFirst (pre ++ post) = closesFirst pre := by
  induction pre with
  | nil => exact h
  | cons c pre ih => simp only [List.cons_append, closesFirst, ih]

theorem closesFirst_escapeChars (cs : List Char) : closesFirst (escapeChars cs) = closesFirst cs := by
  have tags : closesFirst (escapeTags cs) = closesFirst cs := by
    cases found : nextTag? cs with
    | none => rw [escapeTags_of_none found]
    | some f =>
      obtain ⟨-, text, -⟩ := nextTag?_eq_some found
      have more := ({ f with slashes := 2 * f.slashes + 1 } : Found).closesFirst_tag
        (escapeTags f.after)
      rw [escapeTags_of_some found, closesFirst_append_of_unclosing more]
      conv => rhs; rw [text, Found.text, closesFirst_append_of_unclosing (f.closesFirst_tag f.after)]
  have slash : closesFirst (slashEnd cs) = false := by
    unfold slashEnd
    split <;> rfl
  rw [escapeChars_eq, closesFirst_append_of_unclosing slash, tags]

theorem exists_of_closesFirst (h : closesFirst cs = true) :
    ∃ rest after, cs = rest ++ ']' :: after ∧ ∀ c ∈ rest, isBracket c = false := by
  induction cs with
  | nil => cases h
  | cons c cs ih =>
    by_cases opening : c = '['
    · simp [closesFirst, opening] at h
    · by_cases closing : c = ']'
      · exact ⟨[], cs, by rw [closing]; rfl, by simp⟩
      · obtain ⟨rest, after, rfl, free⟩ := ih (by simpa [closesFirst, opening, closing] using h)
        refine ⟨c :: rest, after, rfl, List.forall_mem_cons.mpr ⟨?_, free⟩⟩
        simp [isBracket, opening, closing]

end Ends

section Cuts

variable {cs pre post body rest after : List Char}

theorem nextTag?_append_of_no_closing (h : nextTag? pre = none) (unclosed : ']' ∉ post) :
    nextTag? (pre ++ post) = none := by
  cases found : nextTag? (pre ++ post) with
  | none => rfl
  | some f =>
    obtain ⟨isBody, text, -⟩ := nextTag?_eq_some found
    have cut : pre ++ post =
        (f.before ++ List.replicate f.slashes '\\' ++ '[' :: f.body) ++ ']' :: f.after := by
      rw [text, Found.text]
      simp [bracketed]
    rcases List.append_eq_append_iff.mp cut with ⟨l, -, rfl⟩ | ⟨l, rfl, right⟩
    · simp at unclosed
    · cases l with
      | nil =>
        rw [List.nil_append] at right
        rw [← right] at unclosed
        simp at unclosed
      | cons c l =>
        obtain ⟨rfl, -⟩ := List.cons.inj right
        have some := nextTag?_ne_none isBody (f.before ++ List.replicate f.slashes '\\') l
        simp only [bracketed, List.append_assoc, List.cons_append, List.nil_append] at some h
        exact absurd h some

theorem parts_append_of_no_closing (unclosed : ']' ∉ post) (pre : List Char) :
    escapeTags (pre ++ post) = escapeTags pre ++ post ∧
      lastPart (pre ++ post) = lastPart pre ++ post := by
  -- Every tag of the first text stays where it is, and after the last one there is none.
  induction pre using escapeTags.induct with
  | case1 pre none =>
    have none' := nextTag?_append_of_no_closing none unclosed
    rw [escapeTags_of_none none, escapeTags_of_none none', (parts_of_none none).2,
      (parts_of_none none').2]
    exact ⟨rfl, rfl⟩
  | case2 pre f found ih =>
    have longer := nextTag?_append_of_some found post
    rw [escapeTags_of_some found, escapeTags_of_some longer, (parts_of_some found).2,
      (parts_of_some longer).2]
    exact ⟨by simp [ih.1], ih.2⟩

theorem not_mem_of_no_bracket {b : Char} (bracket : isBracket b) (h : ∀ c ∈ cs, isBracket c = false) :
    b ∉ cs := by
  intro member
  rw [h b member] at bracket
  cases bracket

theorem escapeChars_opening (free : ∀ c ∈ body, isBracket c = false) (before : List Char) :
    escapeChars (before ++ '[' :: body) =
      escapeTags before ++ '[' :: (body ++ slashEnd (before ++ '[' :: body)) := by
  have unclosed : ']' ∉ '[' :: body := by
    rw [List.mem_cons, not_or]
    exact ⟨by decide, not_mem_of_no_bracket rfl free⟩
  rw [escapeChars_eq, (parts_append_of_no_closing unclosed before).1]
  simp

theorem escapeChars_closing (free : ∀ c ∈ rest, isBracket c = false) (after : List Char) :
    escapeChars (rest ++ ']' :: after) = rest ++ ']' :: escapeChars after := by
  have unopened : '[' ∉ rest ++ [']'] := by
    rw [List.mem_append, not_or]
    exact ⟨not_mem_of_no_bracket rfl free, by decide⟩
  have none : nextTag? (rest ++ [']']) = none := by
    cases found : nextTag? (rest ++ [']']) with
    | none => rfl
    | some f =>
      obtain ⟨-, text, -⟩ := nextTag?_eq_some found
      rw [text, Found.text] at unopened
      simp [bracketed] at unopened
  have apart : Apart (rest ++ [']']) after := by
    constructor
    · intro last
      rw [List.getLast?_append] at last
      cases last
    · rintro before body rest' after' opened -
      rw [opened] at unopened
      simp at unopened
  have next := nextTag?_append none apart
  have tags : escapeTags (rest ++ [']'] ++ after) = rest ++ [']'] ++ escapeTags after := by
    cases found : nextTag? after with
    | none =>
      rw [found] at next
      rw [escapeTags_of_none next, escapeTags_of_none found]
    | some f =>
      rw [found] at next
      rw [escapeTags_of_some next, escapeTags_of_some found]
      simp [Found.prepend]
  have same : rest ++ ']' :: after = rest ++ [']'] ++ after := by simp
  have slash : slashEnd (rest ++ ']' :: after) = slashEnd after := by
    rw [slashEnd, endsInSlash_after, ← slashEnd]
  rw [escapeChars_eq, escapeChars_eq, slash, same, tags]
  simp

theorem exists_last_bracket (cs : List Char) : (∀ c ∈ cs, isBracket c = false) ∨
    ∃ before b body, cs = before ++ b :: body ∧ isBracket b ∧ ∀ c ∈ body, isBracket c = false := by
  induction cs with
  | nil => exact .inl (by simp)
  | cons c cs ih =>
    rcases ih with free | ⟨before, b, body, rfl, bracket, free⟩
    · cases first : isBracket c with
      | true => exact .inr ⟨[], c, cs, rfl, first, free⟩
      | false => exact .inl (List.forall_mem_cons.mpr ⟨first, free⟩)
    · exact .inr ⟨c :: before, b, body, rfl, bracket, free⟩

theorem last_bracket_unique {before before' body body' : List Char} {b b' : Char}
    (same : before ++ b :: body = before' ++ b' :: body') (bracket : isBracket b)
    (bracket' : isBracket b') (free : ∀ c ∈ body, isBracket c = false)
    (free' : ∀ c ∈ body', isBracket c = false) : before = before' ∧ b = b' ∧ body = body' := by
  rcases List.append_eq_append_iff.mp same with ⟨l, rfl, right⟩ | ⟨l, rfl, right⟩ <;> cases l with
    | nil =>
      obtain ⟨rfl, rfl⟩ := List.cons.inj right
      simp
    | cons c l =>
      obtain ⟨rfl, rfl⟩ := List.cons.inj right
      first
      | exact absurd (by simp) (not_mem_of_no_bracket bracket' free)
      | exact absurd (by simp) (not_mem_of_no_bracket bracket free')

theorem opening_of_escapeChars {before body : List Char} (free : ∀ c ∈ body, isBracket c = false)
    (h : escapeChars cs = before ++ '[' :: body) :
    ∃ before' body', cs = before' ++ '[' :: body' ∧ (∀ c ∈ body', isBracket c = false) ∧
      body = body' ++ slashEnd cs := by
  have plain : ∀ c ∈ slashEnd cs, isBracket c = false := by
    unfold slashEnd
    split <;> simp [isBracket]
  rcases exists_last_bracket cs with none | ⟨before', b, body', rfl, bracket, free'⟩
  · have untagged : nextTag? cs = .none := by
      have unclosed := not_mem_of_no_bracket (b := ']') rfl none
      rw [← List.nil_append cs]
      exact nextTag?_append_of_no_closing rfl unclosed
    rw [escapeChars_eq, escapeTags_of_none untagged] at h
    have member : '[' ∈ cs ++ slashEnd cs := by
      rw [h]
      simp
    refine absurd member (not_mem_of_no_bracket rfl fun c inside => ?_)
    rcases List.mem_append.mp inside with left | right
    · exact none c left
    · exact plain c right
  · have more : ∀ c ∈ body' ++ slashEnd (before' ++ b :: body'), isBracket c = false :=
      List.forall_mem_append.mpr ⟨free', plain⟩
    have either : b = '[' ∨ b = ']' := by simpa [isBracket] using bracket
    rcases either with rfl | rfl
    · rw [escapeChars_opening free'] at h
      obtain ⟨-, -, same⟩ := last_bracket_unique h rfl rfl more free
      exact ⟨before', body', rfl, free', same.symm⟩
    · have cut : escapeTags (before' ++ ']' :: body') = escapeTags (before' ++ [']']) ++ body' := by
        rw [← (parts_append_of_no_closing (not_mem_of_no_bracket rfl free') _).1]
        simp
      have last : (escapeTags (before' ++ [']'])).getLast? = some ']' := by
        rw [getLast?_escapeTags]
        simp
      obtain ⟨start, ends⟩ := List.getLast?_eq_some_iff.mp last
      rw [escapeChars_eq, cut, ends] at h
      have same : start ++ ']' :: (body' ++ slashEnd (before' ++ ']' :: body')) =
          before ++ '[' :: body := by
        rw [← h]
        simp
      obtain ⟨-, wrong, -⟩ := last_bracket_unique same rfl rfl more free
      cases wrong

theorem closing_of_escapeChars {rest after : List Char} (free : ∀ c ∈ rest, isBracket c = false)
    (h : escapeChars cs = rest ++ ']' :: after) : ∃ after', cs = rest ++ ']' :: after' := by
  have closes : closesFirst cs = true := by
    rw [← closesFirst_escapeChars, h, closesFirst_append_of_no_bracket free]
    rfl
  obtain ⟨rest', after', rfl, free'⟩ := exists_of_closesFirst closes
  rw [escapeChars_closing free'] at h
  refine ⟨after', ?_⟩
  rcases List.append_eq_append_iff.mp h with ⟨l, rfl, right⟩ | ⟨l, rfl, right⟩ <;> cases l with
    | nil => simp
    | cons c l =>
      obtain ⟨rfl, -⟩ := List.cons.inj right
      first
      | exact absurd (by simp) (not_mem_of_no_bracket (b := ']') rfl free)
      | exact absurd (by simp) (not_mem_of_no_bracket (b := ']') rfl free')

end Cuts

section Lines

variable {name value : List Char}

def equals : List Char := [' ', '=', ' ']

theorem wording_equals :
    ∀ c ∈ equals, (isBracket c = false ∧ c ≠ '\\') ∧ c ≠ ':' ∧ isHidden c = false :=
  wording_of_all (by decide)

/-- The last bracket of a text is closed by the first one of the other, and what stands between them
is the body of a tag, with its first character. -/
structure Crossing (name value before : List Char) (first : Char) (body rest after : List Char) :
    Prop where
  opened : name = before ++ '[' :: first :: body
  closed : value = rest ++ ']' :: after
  tag : isBody (first :: (body ++ (equals ++ rest)))

/-- Two texts make a tag with this first character on their line. -/
def Joins (name value : List Char) (first : Char) : Prop :=
  ∃ before body rest after, Crossing name value before first body rest after ∧
    endsOdd false before = false

theorem Crossing.isBody {before body rest after : List Char} {first : Char}
    (h : Crossing name value before first body rest after) :
    isBody (first :: (body ++ (slashEnd name ++ (equals ++ rest)))) := by
  have tag := h.tag
  have slash : (slashEnd name).all (!isBracket ·) := by
    unfold slashEnd
    split <;> rfl
  simp only [Markup.isBody, List.all_append, Bool.and_eq_true] at tag ⊢
  exact ⟨tag.1, tag.2.1, slash, tag.2.2⟩

theorem unjoined_or_crossing (name value : List Char) :
    Unjoined (escapeChars name) (equals ++ escapeChars value) ∨
      ∃ before first body rest after, Crossing name value before first body rest after := by
  by_cases unjoined : Unjoined (escapeChars name) (equals ++ escapeChars value)
  · exact .inl unjoined
  · right
    simp only [Unjoined, not_forall, Bool.not_eq_false] at unjoined
    obtain ⟨before, body, rest, after, opened, closed, tag⟩ := unjoined
    have free := no_bracket_of_isBody tag
    obtain ⟨before', body', opened', -, rfl⟩ := opening_of_escapeChars
      (fun c member => free c (List.mem_append_left rest member)) opened
    -- The closing bracket is beyond the equal sign.
    obtain ⟨rest', rfl⟩ : ∃ rest', rest = equals ++ rest' := by
      rcases List.append_eq_append_iff.mp closed with ⟨l, split, -⟩ | ⟨l, split, right⟩
      · exact ⟨l, split⟩
      · cases l with
        | nil => exact ⟨[], by rw [split, List.append_nil, List.append_nil]⟩
        | cons c l =>
          obtain ⟨rfl, -⟩ := List.cons.inj right
          have inside : ']' ∈ equals := by
            rw [split]
            simp
          simp [equals] at inside
    rw [List.append_assoc, List.append_cancel_left_eq] at closed
    obtain ⟨after', closed'⟩ := closing_of_escapeChars
      (fun c member => free c (by simp; tauto)) closed
    cases body' with
    | nil =>
      have last : name.getLast? ≠ some '\\' := by
        rw [opened', List.getLast?_append]
        nofun
      rw [slashEnd_of_getLast? last] at tag
      cases tag
    | cons first body' =>
      refine ⟨before', first, body', rest', after', opened', closed', ?_⟩
      simp only [List.cons_append, Markup.isBody, List.all_append, Bool.and_eq_true] at tag ⊢
      exact ⟨tag.1, tag.2.1.1, tag.2.2⟩

/-- A text that shows itself has no backslash before its last bracket, if that is left open; so where
it makes no tag with another one it does not touch that. -/
theorem Kept.unjoined (kept : Kept name) (none : ∀ first, ¬ Joins name value first) :
    Unjoined (escapeChars name) (equals ++ escapeChars value) := by
  rcases unjoined_or_crossing name value with unjoined | ⟨before, first, body, rest, after, crossing⟩
  · exact unjoined
  · refine absurd ⟨before, body, rest, after, crossing, ?_⟩ (none first)
    by_contra odd
    have slash := getLast?_of_endsOdd (by simpa using odd)
    have unclosed : ']' ∉ '[' :: first :: body := by
      have free := no_bracket_of_isBody crossing.tag
      rw [List.mem_cons, not_or]
      refine ⟨by decide, not_mem_of_no_bracket rfl fun c member => free c ?_⟩
      simp at member ⊢
      tauto
    have last := (parts_append_of_no_closing unclosed before).2
    rw [← crossing.opened] at last
    obtain ⟨start, split⟩ := List.getLast?_eq_some_iff.mp (getLast?_lastPart slash)
    refine kept.last.slash ?_
    rw [last, split]
    exact ⟨start, first :: body, by simp⟩

theorem Shows.line {opened : List (List Char)} (kept : Kept name) (kept' : Kept value)
    (none : ∀ first, ¬ Joins name value first) :
    Shows opened (Markup.escapeChars name ++ (equals ++ Markup.escapeChars value))
      (name ++ (equals ++ value)) := by
  have second : Shows opened (equals ++ Markup.escapeChars value) (equals ++ value) := by
    have ends : Shows opened (Markup.escapeChars value) (shownText value) := .escaped_end value
    rw [kept'.shownText_eq] at ends
    exact .words wording_equals ends
  have unjoined := kept.unjoined none
  have apart : Apart (lastPart name ++ slashEnd name) (equals ++ Markup.escapeChars value) := by
    constructor
    · rintro - n rest split
      cases n with
      | zero => cases (List.cons.inj split).1
      | succ n => cases (List.cons.inj split).1
    · obtain ⟨start, ends⟩ := lastPart_suffix name
      rw [escapeChars_eq, ← ends, List.append_assoc] at unjoined
      exact unjoined.of_suffix
  have first : firstPart (equals ++ Markup.escapeChars value) =
      equals ++ firstPart (Markup.escapeChars value) := by
    have next : nextTag? (equals ++ Markup.escapeChars value) =
        (nextTag? (Markup.escapeChars value)).map (.prepend equals) :=
      nextTag?_append rfl (.of_plain fun c member => (wording_equals c member).1)
    unfold firstPart
    rw [next]
    cases nextTag? (Markup.escapeChars value) <;> rfl
  have distributes : shownChars (lastPart name ++ slashEnd name ++
      firstPart (equals ++ Markup.escapeChars value)) =
        shownChars (lastPart name ++ slashEnd name) ++
          shownChars (firstPart (equals ++ Markup.escapeChars value)) := by
    rw [first]
    refine shownChars_append (fun _ => nofun) (.inr ?_)
    rintro c ⟨⟩
    decide
  have shows := Shows.escapeChars apart distributes second
  rwa [kept.shownText_eq] at shows

end Lines

end Stepwise.Console.Markup
