import Stepwise.Proofs.Console.Tags

/-! What an escaped text shows among other markup. Each of its tags is shown as it stands, with its
backslashes, and what lies between the tags is shown like any text without them. Nothing of this
depends on what stands around the text, as long as no bracket that it leaves open is closed there
and no backslash at its end meets a tag. -/
namespace Stepwise.Console.Markup

section Junctions

variable {cs pre post : List Char} {f : Found}

def Found.prepend (pre : List Char) (f : Found) : Found := { f with before := pre ++ f.before }

/-- Two texts that make no tag where they meet, and no tag of the second one gets more backslashes
from the first. -/
structure Apart (pre post : List Char) : Prop where
  slash : pre.getLast? = some '\\' → ∀ n rest, post ≠ List.replicate n '\\' ++ '[' :: rest
  tag : Unjoined pre post

theorem Apart.of_unclosing (slash : pre.getLast? ≠ some '\\') (h : closesFirst post = false) :
    Apart pre post :=
  ⟨fun last => absurd last slash, .of_unclosing h⟩

theorem Apart.of_plain (h : ∀ c ∈ pre, isBracket c = false ∧ c ≠ '\\') : Apart pre post := by
  constructor
  · intro last
    exact absurd rfl (h _ (List.mem_of_getLast? last)).2
  · rintro before body rest after rfl -
    cases (h '[' (by simp)).1

theorem Apart.nil (pre : List Char) : Apart pre [] := by
  constructor
  · rintro - n rest none
    have length := congrArg List.length none
    simp at length
  · rintro before body rest after - none
    have length := congrArg List.length none
    simp at length

theorem Apart.tail {c : Char} (h : Apart (c :: pre) post) : Apart pre post where
  slash last := by
    apply h.slash
    cases pre with
    | nil => cases last
    | cons d pre => rwa [List.getLast?_cons_cons]
  tag := h.tag.tail

theorem nextTag?_ne_none {body : List Char} (isBody : isBody body) (pre after : List Char) :
    nextTag? (pre ++ (bracketed body ++ after)) ≠ none := by
  induction pre with
  | nil =>
    have here := tagHere?_run isBody 0 after
    simp only [List.replicate_zero, List.nil_append, bracketed, List.cons_append] at here ⊢
    rw [nextTag?, here]
    exact Option.some_ne_none _
  | cons c pre ih =>
    rw [List.cons_append, nextTag?]
    split
    · exact Option.some_ne_none _
    · simpa using ih

theorem tagHere?_append (h : tagHere? (pre ++ post) = some f) :
    (∃ rest, f.after = rest ++ post ∧ tagHere? pre = some { f with after := rest }) ∨
    ∃ rest, post = rest ++ ']' :: f.after ∧
      List.replicate f.slashes '\\' ++ '[' :: f.body = pre ++ rest := by
  obtain ⟨isBody, text, before⟩ := tagHere?_eq_some h
  have cut : pre ++ post =
      (List.replicate f.slashes '\\' ++ '[' :: f.body) ++ ']' :: f.after := by
    rw [text, Found.text, before]
    simp [bracketed]
  rcases List.append_eq_append_iff.mp cut with ⟨rest, left, right⟩ | ⟨rest, left, right⟩
  · exact .inr ⟨rest, right, left⟩
  · cases rest with
    | nil =>
      rw [List.append_nil] at left
      rw [List.nil_append] at right
      exact .inr ⟨[], right.symm, by rw [List.append_nil, left]⟩
    | cons c rest =>
      obtain ⟨rfl, after⟩ := List.cons.inj right
      have here := tagHere?_run isBody f.slashes rest
      refine .inl ⟨rest, after, ?_⟩
      rw [left, before, ← here]
      simp [bracketed]

theorem nextTag?_append_of_some (h : nextTag? pre = some f) (post : List Char) :
    nextTag? (pre ++ post) = some { f with after := f.after ++ post } := by
  induction pre generalizing f with
  | nil => cases h
  | cons c pre ih =>
    simp only [nextTag?] at h
    rw [List.cons_append]
    simp only [nextTag?]
    split at h
    · rename_i here
      cases h
      obtain ⟨isBody, text, before⟩ := tagHere?_eq_some here
      have longer := tagHere?_run isBody f.slashes (f.after ++ post)
      have same : c :: (pre ++ post) =
          List.replicate f.slashes '\\' ++ (bracketed f.body ++ (f.after ++ post)) := by
        rw [← List.cons_append, text, Found.text, before]
        simp
      rw [same, longer, ← before]
    · rename_i here
      obtain ⟨g, next, rfl⟩ := Option.map_eq_some_iff.mp h
      obtain ⟨-, text, -⟩ := nextTag?_eq_some next
      have closed : ']' ∈ pre := by
        rw [text, Found.text]
        simp [bracketed]
      have none : tagHere? (c :: (pre ++ post)) = none := by
        cases found : tagHere? (c :: (pre ++ post)) with
        | none => rfl
        | some t =>
          obtain ⟨isBody, -, -⟩ := tagHere?_eq_some found
          rw [← List.cons_append] at found
          rcases tagHere?_append found with ⟨rest, -, inside⟩ | ⟨rest, -, opened⟩
          · rw [here] at inside
            cases inside
          · -- The bracket that closes the later tag would stand in the body of this one.
            have member : ']' ∈ List.replicate t.slashes '\\' ++ '[' :: t.body := by
              rw [opened]
              simp [closed]
            have free := no_bracket_of_isBody isBody ']'
            simp [List.mem_replicate, isBracket] at member free
            exact absurd member free
      rw [none, ih next]
      rfl

theorem getLast?_of_slashes {c : Char} (h : ∀ d ∈ c :: pre, d = '\\') :
    (c :: pre).getLast? = some '\\' := by
  have last := h _ (List.getLast_mem (List.cons_ne_nil c pre))
  rw [List.getLast?_eq_some_getLast (List.cons_ne_nil c pre), last]

theorem tagHere?_append_of_none {c : Char} (h : tagHere? (c :: pre) = none)
    (apart : Apart (c :: pre) post) : tagHere? (c :: pre ++ post) = none := by
  cases found : tagHere? (c :: pre ++ post) with
  | none => rfl
  | some t =>
    obtain ⟨isBody, -, -⟩ := tagHere?_eq_some found
    rcases tagHere?_append found with ⟨rest, -, inside⟩ | ⟨rest, split, opened⟩
    · rw [h] at inside
      cases inside
    · -- The first text ends among the backslashes of the tag or in its body.
      rcases List.append_eq_append_iff.mp opened.symm with ⟨l, left, right⟩ | ⟨l, left, right⟩
      · have slashes : ∀ d ∈ c :: pre ++ l, d = '\\' := by
          rw [← left]
          exact fun d member => (List.mem_replicate.mp member).2
        have more : l = List.replicate l.length '\\' :=
          List.eq_replicate_iff.mpr ⟨rfl, fun d member => slashes d (List.mem_append_right _ member)⟩
        have ends := getLast?_of_slashes fun d member => slashes d (List.mem_append_left l member)
        refine absurd ?_ (apart.slash ends l.length (t.body ++ ']' :: t.after))
        rw [split, right, ← more]
        simp
      · cases l with
        | nil =>
          have ends := getLast?_of_slashes fun d member => by
            rw [left, List.append_nil] at member
            exact (List.mem_replicate.mp member).2
          refine absurd ?_ (apart.slash ends 0 (t.body ++ ']' :: t.after))
          rw [split, ← List.nil_append rest, ← right]
          rfl
        | cons d l =>
          obtain ⟨rfl, body⟩ := List.cons.inj right
          have none := apart.tag _ l rest t.after left split
          exact absurd (body ▸ isBody) (by simpa using none)

theorem nextTag?_append (h : nextTag? pre = none) (apart : Apart pre post) :
    nextTag? (pre ++ post) = (nextTag? post).map (.prepend pre) := by
  induction pre with
  | nil =>
    have same : Found.prepend [] = id := rfl
    rw [List.nil_append, same, Option.map_id_apply]
  | cons c pre ih =>
    simp only [nextTag?] at h
    split at h
    · cases h
    · rename_i here
      have later : nextTag? pre = none := by simpa using h
      have none := tagHere?_append_of_none here apart
      rw [List.cons_append] at none ⊢
      simp only [nextTag?, none, ih later apart.tail, Option.map_map]
      rfl

/-- What comes before a first tag has no tag, and all backslashes right before the tag are counted. -/
theorem nextTag?_before (h : nextTag? cs = some f) :
    nextTag? f.before = none ∧ f.before.getLast? ≠ some '\\' := by
  induction cs generalizing f with
  | nil => cases h
  | cons c cs ih =>
    simp only [nextTag?] at h
    split at h
    · rename_i here
      cases h
      obtain ⟨-, -, before⟩ := tagHere?_eq_some here
      rw [before]
      exact ⟨rfl, by simp⟩
    · rename_i here
      obtain ⟨g, next, rfl⟩ := Option.map_eq_some_iff.mp h
      obtain ⟨isBody, text, -⟩ := nextTag?_eq_some next
      obtain ⟨none, last⟩ := ih next
      constructor
      · have none' : tagHere? (c :: g.before) = .none := by
          cases found : tagHere? (c :: g.before) with
          | none => rfl
          | some t =>
            obtain ⟨isBody', text', before'⟩ := tagHere?_eq_some found
            have longer := tagHere?_run isBody' t.slashes
              (t.after ++ (List.replicate g.slashes '\\' ++ (bracketed g.body ++ g.after)))
            have same : c :: cs = List.replicate t.slashes '\\' ++ (bracketed t.body ++
                (t.after ++ (List.replicate g.slashes '\\' ++ (bracketed g.body ++ g.after)))) := by
              rw [text, Found.text, ← List.cons_append, text', Found.text, before']
              simp
            rw [← same, here] at longer
            cases longer
        simp only [nextTag?, none', none, Option.map_none]
      · cases bare : g.before with
        | cons d rest =>
          rw [bare] at last
          rwa [List.getLast?_cons_cons]
        | nil =>
          rintro slash
          obtain rfl : c = '\\' := by simpa using slash
          have run := tagHere?_run isBody (g.slashes + 1) g.after
          have same : List.replicate (g.slashes + 1) '\\' ++ (bracketed g.body ++ g.after) =
              '\\' :: cs := by
            rw [text, Found.text, bare]
            rfl
          rw [same, here] at run
          cases run

theorem nextTag?_run {body : List Char} (isBody : isBody body) (n : Nat) (after : List Char) :
    nextTag? (List.replicate n '\\' ++ (bracketed body ++ after)) = some ⟨[], n, body, after⟩ := by
  have here := tagHere?_run isBody n after
  cases n <;> simp only [List.replicate_zero, List.replicate_succ, List.nil_append,
    List.cons_append, bracketed] at here ⊢ <;> simp only [nextTag?, here]

theorem nextTag?_of_before (h : nextTag? cs = some f) (n : Nat) (after : List Char) :
    nextTag? (f.before ++ (List.replicate n '\\' ++ (bracketed f.body ++ after))) =
      some ⟨f.before, n, f.body, after⟩ := by
  obtain ⟨isBody, -, -⟩ := nextTag?_eq_some h
  obtain ⟨none, last⟩ := nextTag?_before h
  have apart : Apart f.before (List.replicate n '\\' ++ (bracketed f.body ++ after)) :=
    .of_unclosing last (({ f with slashes := n } : Found).closesFirst_tag after)
  rw [nextTag?_append none apart, nextTag?_run isBody n after]
  simp [Found.prepend]

end Junctions

section Shows

variable {opened : List (List Char)} {cs post out : List Char} {f : Found}

/-- A text with markup shows some characters, given the styles that are open, wherever it stands. -/
def Shows (opened : List (List Char)) (cs out : List Char) : Prop :=
  ∀ position, showPieces opened (pieces position cs) = .ok out

theorem pieces_of_none (h : nextTag? cs = none) (position : Nat) : pieces position cs = shown cs := by
  rw [pieces]
  split
  · rfl
  · rename_i found
    rw [h] at found
    cases found

theorem pieces_of_some (h : nextTag? cs = some f) (position : Nat) :
    pieces position cs = shown f.before ++
      (taggedPieces (position + f.before.length) f.slashes f.body ++
        pieces (position + f.before.length + f.slashes + f.body.length + 2) f.after) := by
  rw [pieces]
  split
  · rename_i none
    rw [h] at none
    cases none
  · rename_i g found
    cases h.symm.trans found
    rw [List.append_assoc]

@[simp] theorem shownChars_nil : shownChars [] = [] := by
  simp [shownChars, dropSlashes, putPictures]

theorem showPieces_shown (opened : List (List Char)) (cs : List Char) (rest : List Piece) :
    showPieces opened (shown cs ++ rest) = (shownChars cs ++ ·) <$> showPieces opened rest := by
  unfold shown
  split
  · rename_i empty
    cases List.isEmpty_iff.mp empty
    rw [shownChars_nil]
    exact (id_map _).symm
  · rfl

theorem Shows.of_none (h : nextTag? cs = none) : Shows opened cs (shownChars cs) := by
  intro position
  rw [pieces_of_none h, ← List.append_nil (shown cs), showPieces_shown]
  simp [showPieces, Functor.map, Except.map]

theorem Shows.nil (opened : List (List Char)) : Shows opened [] [] := by
  have none : nextTag? [] = none := rfl
  simpa using Shows.of_none none

theorem Shows.of_escaped (h : nextTag? cs = some f) (odd : f.slashes % 2 = 1)
    (later : Shows opened f.after out) :
    Shows opened cs (shownChars f.before ++ (shownChars (List.replicate (f.slashes / 2) '\\') ++
      (shownChars (bracketed f.body) ++ out))) := by
  intro position
  rw [pieces_of_some h, showPieces_shown, taggedPieces, if_pos odd, List.append_assoc,
    showPieces_shown]
  simp [showPieces, later _, Functor.map, Except.map]

theorem Shows.of_opening (h : nextTag? cs = some f) (bare : f.slashes = 0)
    (opening : ∀ name, nameOf f.body ≠ '/' :: name)
    (later : Shows (styleName (nameOf f.body) :: opened) f.after out) :
    Shows opened cs (shownChars f.before ++ out) := by
  intro position
  rw [pieces_of_some h, showPieces_shown, taggedPieces, bare]
  have tag : showPieces opened (.tag (position + f.before.length) f.body ::
      pieces (position + f.before.length + f.body.length + 2) f.after) = .ok out := by
    rw [showPieces]
    split
    · rename_i name closing
      exact absurd closing (opening name)
    · exact later _
  simp [shown, tag]

theorem Shows.of_closing {name : List Char} {opened' : List (List Char)} (h : nextTag? cs = some f)
    (bare : f.slashes = 0) (closing : nameOf f.body = '/' :: name)
    (closes : close? (Text.trim name) opened = some opened') (later : Shows opened' f.after out) :
    Shows opened cs (shownChars f.before ++ out) := by
  intro position
  rw [pieces_of_some h, showPieces_shown, taggedPieces, bare]
  have tag : showPieces opened (.tag (position + f.before.length) f.body ::
      pieces (position + f.before.length + f.body.length + 2) f.after) = .ok out := by
    rw [showPieces]
    simp only [closing, closes]
    exact later _
  simp [shown, tag]

def firstPart (cs : List Char) : List Char :=
  match nextTag? cs with
  | none => cs
  | some f => f.before

/-- More characters before a text are shown before what it shows, if neither a tag nor anything else
is made where they meet. -/
theorem Shows.lead {pre : List Char} (none : nextTag? pre = none) (apart : Apart pre cs)
    (distributes : shownChars (pre ++ firstPart cs) = shownChars pre ++ shownChars (firstPart cs))
    (h : Shows opened cs out) : Shows opened (pre ++ cs) (shownChars pre ++ out) := by
  intro position
  have next := nextTag?_append none apart
  unfold firstPart at distributes
  cases found : nextTag? cs with
  | none =>
    rw [found] at next distributes
    have alone := h 0
    rw [pieces_of_none found, ← List.append_nil (shown cs), showPieces_shown] at alone
    rw [pieces_of_none next, ← List.append_nil (shown _), showPieces_shown, distributes]
    cases alone
    simp [showPieces, Functor.map, Except.map]
  | some f =>
    rw [found] at next distributes
    have alone := h (position + pre.length)
    rw [pieces_of_some found, showPieces_shown] at alone
    rw [pieces_of_some next, showPieces_shown]
    simp only [Found.prepend, List.length_append, ← Nat.add_assoc, distributes]
    cases later : showPieces opened (taggedPieces (position + pre.length + f.before.length) f.slashes
        f.body ++ pieces (position + pre.length + f.before.length + f.slashes + f.body.length + 2)
          f.after) with
    | error e =>
      rw [later] at alone
      cases alone
    | ok more =>
      rw [later] at alone
      cases alone
      simp [Functor.map, Except.map]

end Shows

section Escaping

variable {opened : List (List Char)} {cs post out : List Char} {f : Found}

/-- What a text has up to its last tag: the texts before the tags, the backslashes of each and each
with its brackets. -/
def tagParts (cs : List Char) : List (List Char) :=
  match _h : nextTag? cs with
  | none => []
  | some f =>
    f.before :: List.replicate f.slashes '\\' :: bracketed f.body :: tagParts f.after
  termination_by cs.length
  decreasing_by exact nextTag?_length _h

def lastPart (cs : List Char) : List Char :=
  match _h : nextTag? cs with
  | none => cs
  | some f => lastPart f.after
  termination_by cs.length
  decreasing_by exact nextTag?_length _h

def slashEnd (cs : List Char) : List Char := if endsInSlash cs then ['\\'] else []

def shownText (cs : List Char) : List Char :=
  (tagParts cs).flatMap shownChars ++ shownChars (lastPart cs ++ slashEnd cs)

theorem parts_of_none (h : nextTag? cs = none) : tagParts cs = [] ∧ lastPart cs = cs := by
  rw [tagParts, lastPart]
  constructor <;>
  · split
    · rfl
    · rename_i found
      rw [h] at found
      cases found

theorem parts_of_some (h : nextTag? cs = some f) :
    tagParts cs = f.before :: List.replicate f.slashes '\\' :: bracketed f.body ::
      tagParts f.after ∧ lastPart cs = lastPart f.after := by
  rw [tagParts, lastPart]
  constructor <;>
  · split
    · rename_i none
      rw [h] at none
      cases none
    · rename_i g found
      cases h.symm.trans found
      rfl

theorem escapeTags_of_none (h : nextTag? cs = none) : escapeTags cs = cs := by
  rw [escapeTags]
  split
  · rfl
  · rename_i found
    rw [h] at found
    cases found

theorem escapeTags_of_some (h : nextTag? cs = some f) :
    escapeTags cs = f.before ++ (List.replicate (2 * f.slashes + 1) '\\' ++
      (bracketed f.body ++ escapeTags f.after)) := by
  rw [escapeTags]
  split
  · rename_i none
    rw [h] at none
    cases none
  · rename_i g found
    cases h.symm.trans found
    simp

theorem flatten_parts (cs : List Char) : (tagParts cs).flatten ++ lastPart cs = cs := by
  fun_induction escapeTags cs with
  | case1 cs none =>
    obtain ⟨parts, last⟩ := parts_of_none none
    rw [parts, last]
    rfl
  | case2 cs f found ih =>
    obtain ⟨parts, last⟩ := parts_of_some found
    obtain ⟨-, text, -⟩ := nextTag?_eq_some found
    rw [parts, last]
    conv => rhs; rw [text, Found.text, ← ih]
    simp

theorem nextTag?_lastPart (cs : List Char) : nextTag? (lastPart cs) = none := by
  fun_induction escapeTags cs with
  | case1 cs none => rw [(parts_of_none none).2, none]
  | case2 cs f found ih => rw [(parts_of_some found).2, ih]

theorem slashEnd_of_getLast? (h : cs.getLast? ≠ some '\\') : slashEnd cs = [] := by
  rw [List.getLast?_eq_head?_reverse] at h
  have none : endsInSlash cs = false := by
    unfold endsInSlash
    split
    · rename_i last
      exact absurd (by rw [last]; rfl) h
    · rename_i last
      exact absurd (by rw [last]; rfl) h
    · rfl
  simp [slashEnd, none]

theorem endsInSlash_after (pre cs : List Char) :
    endsInSlash (pre ++ ']' :: cs) = endsInSlash cs := by
  have turned : (pre ++ ']' :: cs).reverse = cs.reverse ++ ']' :: pre.reverse := by simp
  unfold endsInSlash
  rw [turned]
  match cs.reverse with
  | [] => simp
  | [c] => by_cases slash : c = '\\' <;> simp [slash]
  | c :: d :: rest => by_cases slash : c = '\\' <;> simp [slash]

theorem endsInSlash_escapeTags (cs : List Char) : endsInSlash (escapeTags cs) = endsInSlash cs := by
  fun_induction escapeTags cs with
  | case1 cs none => rfl
  | case2 cs f found ih =>
    obtain ⟨-, text, -⟩ := nextTag?_eq_some found
    have tag : ∀ before rest, before ++ (bracketed f.body ++ rest) =
        (before ++ '[' :: f.body) ++ ']' :: rest := by simp [bracketed]
    rw [List.append_assoc, tag, endsInSlash_after, ih]
    conv => rhs; rw [text, Found.text, ← List.append_assoc, tag, endsInSlash_after]

theorem escapeChars_eq (cs : List Char) : escapeChars cs = escapeTags cs ++ slashEnd cs := by
  unfold escapeChars slashEnd
  simp only [endsInSlash_escapeTags]
  split <;> simp

/-- The tags of an escaped text are shown, whatever the rest of it and what is after it show. -/
theorem Shows.escapeTags (h : Shows opened (lastPart cs ++ post) out) :
    Shows opened (escapeTags cs ++ post) ((tagParts cs).flatMap shownChars ++ out) := by
  -- An escaped tag has an odd number of backslashes, half of which are those it had before.
  induction cs using escapeTags.induct with
  | case1 cs none =>
    obtain ⟨parts, last⟩ := parts_of_none none
    rw [last] at h
    rwa [escapeTags_of_none none, parts]
  | case2 cs f found ih =>
    obtain ⟨parts, last⟩ := parts_of_some found
    rw [last] at h
    have text : Markup.escapeTags cs ++ post =
        f.before ++ (List.replicate (2 * f.slashes + 1) '\\' ++
          (bracketed f.body ++ (Markup.escapeTags f.after ++ post))) := by
      rw [escapeTags_of_some found]
      simp
    have next := nextTag?_of_before found (2 * f.slashes + 1) (Markup.escapeTags f.after ++ post)
    have half : (2 * f.slashes + 1) / 2 = f.slashes := by omega
    have shows := Shows.of_escaped next (by simp) (ih h)
    simp only [half] at shows
    rw [text, parts]
    simpa using shows

/-- An escaped text is shown before what follows it, if it does not touch that. -/
theorem Shows.escapeChars (apart : Apart (lastPart cs ++ slashEnd cs) post)
    (distributes : shownChars (lastPart cs ++ slashEnd cs ++ firstPart post) =
      shownChars (lastPart cs ++ slashEnd cs) ++ shownChars (firstPart post))
    (h : Shows opened post out) : Shows opened (escapeChars cs ++ post) (shownText cs ++ out) := by
  have none : nextTag? (lastPart cs ++ slashEnd cs) = none := by
    unfold slashEnd
    split
    · rw [nextTag?_append (nextTag?_lastPart cs)]
      · rfl
      · constructor
        · rintro - n rest split
          have opening : '[' ∈ ['\\'] := by
            rw [split]
            simp
          simp at opening
        · rintro before body rest after - split
          have closing : ']' ∈ ['\\'] := by
            rw [split]
            simp
          simp at closing
    · rw [List.append_nil]
      exact nextTag?_lastPart cs
  have last := Shows.lead none apart distributes h
  rw [List.append_assoc] at last
  rw [escapeChars_eq, List.append_assoc, shownText, List.append_assoc]
  exact last.escapeTags

end Escaping

end Stepwise.Console.Markup
