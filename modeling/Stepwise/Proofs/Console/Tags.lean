import Mathlib.Data.List.TakeWhile
import Stepwise.Console.Markup

/-! Where the tags of a text are. Rendering and escaping look for the first tag and go on after it.
Read from the left, character by character, the tags are the bodies in brackets that an even number
of backslashes stands before. A text can be read in two parts unless the second one closes what the
first one opened, so an escaped text between two others leaves them the tags they have. -/
namespace Stepwise.Console.Markup

def isBracket (c : Char) : Bool := c = '[' || c = ']'

def isBody : List Char → Bool
  | [] => false
  | c :: cs => startsTag c && cs.all (!isBracket ·)

def closesFirst : List Char → Bool
  | [] => false
  | c :: cs => if c = '[' then false else c = ']' || closesFirst cs

/-- Whether an odd number of backslashes stands before what follows a character. -/
def oddAfter (odd : Bool) (c : Char) : Bool := c = '\\' && !odd

def endsOdd (odd : Bool) : List Char → Bool
  | [] => odd
  | c :: cs => endsOdd (oddAfter odd c) cs

def bodyOf? (cs : List Char) : Option (List Char) := (tagBody? cs).map Prod.fst

/-- The bodies of the tags of a text, those of escaped tags left out. Given is whether an odd number
of backslashes stands before the text. -/
def liveTags (odd : Bool) : List Char → List (List Char)
  | [] => []
  | c :: cs =>
    (if c = '[' && !odd then (bodyOf? cs).toList else []) ++ liveTags (oddAfter odd c) cs

section Bodies

variable {cs body after post : List Char}

theorem drop_takeWhile (p : Char → Bool) (cs : List Char) :
    cs.drop (cs.takeWhile p).length = cs.dropWhile p := by
  conv => lhs; rhs; rw [← List.takeWhile_append_dropWhile (p := p) (l := cs)]
  exact List.drop_left

theorem not_bracket_of_startsTag {c : Char} (h : startsTag c) : isBracket c = false := by
  by_cases bracket : c = '[' ∨ c = ']'
  · rcases bracket with rfl | rfl <;> exact absurd h (by decide)
  · simpa [isBracket] using bracket

theorem no_bracket_of_isBody (h : isBody body) : ∀ c ∈ body, isBracket c = false := by
  cases body with
  | nil => cases h
  | cons c rest =>
    obtain ⟨starts, others⟩ : startsTag c ∧ ∀ d ∈ rest, isBracket d = false := by
      simpa [isBody] using h
    rw [List.forall_mem_cons]
    exact ⟨not_bracket_of_startsTag starts, others⟩

/-- The body of a tag goes up to the first bracket, which must be a closing one. -/
theorem tagBody?_cons (c : Char) (cs : List Char) :
    tagBody? (c :: cs) =
      if startsTag c then
        match cs.dropWhile (!isBracket ·) with
        | ']' :: after => some (c :: cs.takeWhile (!isBracket ·), after)
        | _ => none
      else none := by
  rw [← drop_takeWhile]
  rfl

theorem tagBody?_of_isBody (h : isBody body) (after : List Char) :
    tagBody? (body ++ ']' :: after) = some (body, after) := by
  cases body with
  | nil => cases h
  | cons c rest =>
    obtain ⟨starts, others⟩ : startsTag c ∧ ∀ d ∈ rest, (!isBracket d) = true := by
      simpa [isBody] using h
    rw [List.cons_append, tagBody?_cons, if_pos starts, List.takeWhile_append_of_pos others,
      List.dropWhile_append_of_pos others]
    simp [isBracket]

theorem isBody_of_tagBody? (h : tagBody? cs = some (body, after)) :
    isBody body ∧ cs = body ++ ']' :: after := by
  cases cs with
  | nil => cases h
  | cons c cs =>
    rw [tagBody?_cons] at h
    split at h
    · rename_i starts
      split at h
      · rename_i rest found
        obtain ⟨rfl, rfl⟩ : c :: cs.takeWhile (!isBracket ·) = body ∧ rest = after := by
          simpa using h
        have free : (cs.takeWhile (!isBracket ·)).all (!isBracket ·) := List.all_takeWhile
        refine ⟨by simpa only [isBody, starts, Bool.true_and] using free, ?_⟩
        rw [List.cons_append, ← found, List.takeWhile_append_dropWhile]
      · cases h
    · cases h

theorem closesFirst_append_of_no_bracket {cs : List Char} (h : ∀ c ∈ cs, isBracket c = false)
    (rest : List Char) : closesFirst (cs ++ rest) = closesFirst rest := by
  induction cs with
  | nil => rfl
  | cons c cs ih =>
    obtain ⟨first, others⟩ := List.forall_mem_cons.mp h
    obtain ⟨opening, closing⟩ : c ≠ '[' ∧ c ≠ ']' := by simpa [isBracket] using first
    simp [closesFirst, opening, closing, ih others]

/-- No tag that one text begins ends in the other. -/
def Unjoined (pre post : List Char) : Prop :=
  ∀ before body rest after, pre = before ++ '[' :: body → post = rest ++ ']' :: after →
    isBody (body ++ rest) = false

theorem Unjoined.of_unclosing {pre : List Char} (h : closesFirst post = false) :
    Unjoined pre post := by
  rintro before body rest after - rfl
  by_contra tag
  have free := no_bracket_of_isBody (Bool.not_eq_false _ ▸ tag)
  rw [closesFirst_append_of_no_bracket fun c member => free c (List.mem_append_right body member)]
    at h
  cases h

theorem Unjoined.tail {c : Char} {pre : List Char} (h : Unjoined (c :: pre) post) :
    Unjoined pre post := by
  rintro before body rest after rfl rfl
  exact h (c :: before) body rest after rfl rfl

theorem bodyOf?_append (unjoined : Unjoined ('[' :: cs) post) : bodyOf? (cs ++ post) = bodyOf? cs := by
  unfold bodyOf?
  cases found : tagBody? cs with
  | some tag =>
    obtain ⟨body, after⟩ := tag
    obtain ⟨isBody, rfl⟩ := isBody_of_tagBody? found
    rw [List.append_assoc, List.cons_append, tagBody?_of_isBody isBody]
    rfl
  | none =>
    cases longer : tagBody? (cs ++ post) with
    | none => rfl
    | some tag =>
      obtain ⟨body, after⟩ := tag
      obtain ⟨isBody, cut⟩ := isBody_of_tagBody? longer
      -- The bracket that ends the body is in one of the two parts.
      rcases List.append_eq_append_iff.mp cut with ⟨l, rfl, closed⟩ | ⟨l, rfl, closed⟩
      · have none := unjoined [] cs l after rfl closed
        rw [isBody] at none
        cases none
      · cases l with
        | nil =>
          have none := unjoined [] (body ++ []) [] after rfl closed.symm
          rw [List.append_nil, List.append_nil, isBody] at none
          cases none
        | cons c l =>
          cases closed
          rw [tagBody?_of_isBody isBody] at found
          cases found

end Bodies

section Reading

variable {cs pre post : List Char}

/-- A text is read in two parts, unless a tag of the first one ends in the second. -/
theorem liveTags_append (unjoined : Unjoined pre post) (odd : Bool) :
    liveTags odd (pre ++ post) = liveTags odd pre ++ liveTags (endsOdd odd pre) post := by
  induction pre generalizing odd with
  | nil => rfl
  | cons c pre ih =>
    have first : (if c = '[' && !odd then (bodyOf? (pre ++ post)).toList else []) =
        if c = '[' && !odd then (bodyOf? pre).toList else [] := by
      by_cases opening : c = '['
      · subst opening
        rw [bodyOf?_append unjoined]
      · simp [opening]
    simp only [List.cons_append, liveTags, endsOdd, first, ih unjoined.tail, List.append_assoc]

theorem liveTags_of_no_opening {odd : Bool} (h : ∀ c ∈ cs, c ≠ '[') : liveTags odd cs = [] := by
  induction cs generalizing odd with
  | nil => rfl
  | cons c cs ih =>
    obtain ⟨first, others⟩ := List.forall_mem_cons.mp h
    simp [liveTags, first, ih others]

theorem no_markup_of_all {words : List Char} (h : words.all fun c => !(isBracket c || c = '\\')) :
    ∀ c ∈ words, isBracket c = false ∧ c ≠ '\\' := by
  simpa [not_or] using h

/-- Characters that are neither brackets nor backslashes may stand anywhere. -/
theorem liveTags_plain {odd : Bool} {cs : List Char}
    (h : ∀ c ∈ cs, isBracket c = false ∧ c ≠ '\\') (rest : List Char) :
    liveTags odd (cs ++ rest) = liveTags (odd && cs.isEmpty) rest := by
  induction cs generalizing odd with
  | nil => simp
  | cons c cs ih =>
    obtain ⟨⟨free, slash⟩, others⟩ := List.forall_mem_cons.mp h
    have opening : c ≠ '[' := by
      rintro rfl
      cases free
    simp [liveTags, opening, oddAfter, slash, ih others]

theorem liveTags_replicate (odd : Bool) (n : Nat) (rest : List Char) :
    liveTags odd (List.replicate n '\\' ++ rest) = liveTags (odd ^^ decide (n % 2 = 1)) rest := by
  induction n generalizing odd with
  | zero => simp
  | succ n ih =>
    have step : liveTags odd (List.replicate (n + 1) '\\' ++ rest) =
        liveTags (!odd) (List.replicate n '\\' ++ rest) := by
      simp [List.replicate_succ, liveTags, oddAfter]
    have parity : decide ((n + 1) % 2 = 1) = !decide (n % 2 = 1) := by
      rw [← decide_not, decide_eq_decide]
      omega
    rw [step, ih, parity, Bool.not_xor, Bool.xor_not]

/-- A bracketed body is a tag unless it is escaped, and what is after it is read on its own. -/
theorem liveTags_bracketed {body : List Char} (h : isBody body) (odd : Bool) (after : List Char) :
    liveTags odd (bracketed body ++ after) =
      (if odd then [] else [body]) ++ liveTags false after := by
  have inside : ∀ (odd : Bool) (cs : List Char), (∀ c ∈ cs, isBracket c = false) →
      liveTags odd (cs ++ ']' :: after) = liveTags false after := by
    intro odd cs free
    induction cs generalizing odd with
    | nil => simp [liveTags, oddAfter]
    | cons c cs ih =>
      obtain ⟨first, others⟩ := List.forall_mem_cons.mp free
      have opening : c ≠ '[' := by
        rintro rfl
        cases first
      simp [liveTags, opening, ih _ others]
  have open' : bracketed body ++ after = '[' :: (body ++ ']' :: after) := by simp [bracketed]
  rw [open', liveTags, inside _ body (no_bracket_of_isBody h), bodyOf?, tagBody?_of_isBody h]
  cases odd <;> rfl

end Reading

section First

variable {cs : List Char} {f : Found}

def Found.text (f : Found) : List Char :=
  f.before ++ (List.replicate f.slashes '\\' ++ (bracketed f.body ++ f.after))

theorem tagHere?_eq_some (h : tagHere? cs = some f) :
    isBody f.body ∧ cs = f.text ∧ f.before = [] := by
  unfold tagHere? at h
  simp only at h
  split at h
  · rename_i rest opened
    obtain ⟨⟨body, after⟩, found, rfl⟩ := Option.map_eq_some_iff.mp h
    obtain ⟨isBody, rfl⟩ := isBody_of_tagBody? found
    refine ⟨isBody, ?_, rfl⟩
    have slashes : cs.takeWhile (· = '\\') =
        List.replicate (cs.takeWhile (· = '\\')).length '\\' := by
      rw [List.eq_replicate_iff]
      exact ⟨rfl, fun c member => by simpa using List.mem_takeWhile_imp member⟩
    have parts : cs = cs.takeWhile (· = '\\') ++ cs.drop (cs.takeWhile (· = '\\')).length := by
      conv => lhs; rw [← List.take_append_drop (cs.takeWhile (· = '\\')).length cs]
      congr 1
      exact (List.prefix_iff_eq_take.mp (List.takeWhile_prefix _)).symm
    rw [opened] at parts
    conv => lhs; rw [parts, slashes]
    simp [Found.text, bracketed]
  · cases h

theorem tagHere?_run {body : List Char} (h : isBody body) (n : Nat) (after : List Char) :
    tagHere? (List.replicate n '\\' ++ (bracketed body ++ after)) = some ⟨[], n, body, after⟩ := by
  have taken : (List.replicate n '\\' ++ (bracketed body ++ after)).takeWhile (· = '\\') =
      List.replicate n '\\' := by
    rw [List.takeWhile_append_of_pos]
    · simp [bracketed]
    · intro c member
      simpa using (List.mem_replicate.mp member).2
  unfold tagHere?
  simp only [taken, List.length_replicate, List.drop_left']
  simp [bracketed, tagBody?_of_isBody h]

theorem bodyOf?_of_tagHere? {odd : Bool} {c : Char} (h : tagHere? (c :: cs) = none) :
    (if c = '[' && !odd then (bodyOf? cs).toList else []) = [] := by
  by_cases opening : c = '['
  · subst opening
    have none : tagBody? cs = none := by simpa [tagHere?] using h
    simp [bodyOf?, none]
  · simp [opening]

theorem liveTags_of_nextTag?_none {odd : Bool} (h : nextTag? cs = none) :
    liveTags odd cs = [] := by
  induction cs generalizing odd with
  | nil => rfl
  | cons c cs ih =>
    simp only [nextTag?] at h
    split at h
    · cases h
    · rename_i here
      have rest : nextTag? cs = none := by simpa using h
      rw [liveTags, bodyOf?_of_tagHere? here, ih rest]
      rfl

theorem Found.closesFirst_tag (f : Found) (rest : List Char) :
    closesFirst (List.replicate f.slashes '\\' ++ (bracketed f.body ++ rest)) = false := by
  rw [closesFirst_append_of_no_bracket]
  · rfl
  · intro c member
    rw [(List.mem_replicate.mp member).2]
    rfl

/-- What a first tag says of the text: the tag is there, nothing before it is one, and all the
backslashes that stand before it are counted. -/
theorem nextTag?_eq_some (h : nextTag? cs = some f) :
    isBody f.body ∧ cs = f.text ∧
      ∀ odd, liveTags odd f.before = [] ∧ (f.before ≠ [] → endsOdd odd f.before = false) := by
  induction cs generalizing f with
  | nil => cases h
  | cons c cs ih =>
    simp only [nextTag?] at h
    split at h
    · rename_i here
      cases h
      obtain ⟨isBody, text, none⟩ := tagHere?_eq_some here
      refine ⟨isBody, text, fun odd => ?_⟩
      rw [none]
      exact ⟨rfl, fun some => absurd rfl some⟩
    · rename_i here
      obtain ⟨g, next, rfl⟩ := Option.map_eq_some_iff.mp h
      obtain ⟨isBody, text, before⟩ := ih next
      refine ⟨isBody, congrArg (c :: ·) text, fun odd => ⟨?_, fun _ => ?_⟩⟩
      · have unjoined : Unjoined ('[' :: g.before)
            (List.replicate g.slashes '\\' ++ (bracketed g.body ++ g.after)) :=
          .of_unclosing (g.closesFirst_tag g.after)
        have kept := bodyOf?_append unjoined
        rw [← Found.text, ← text] at kept
        rw [liveTags, ← kept, bodyOf?_of_tagHere? here, (before _).1]
        rfl
      · by_cases bare : g.before = []
        · -- A backslash right before the tag would have been counted with the others.
          have slash : c ≠ '\\' := by
            rintro rfl
            have run := tagHere?_run isBody (g.slashes + 1) g.after
            have same : List.replicate (g.slashes + 1) '\\' ++ (bracketed g.body ++ g.after) =
                '\\' :: cs := by
              rw [text, Found.text, bare]
              rfl
            rw [same, here] at run
            cases run
          simp [endsOdd, bare, oddAfter, slash]
        · exact (before _).2 bare

theorem endsOdd_before (h : nextTag? cs = some f) : endsOdd false f.before = false := by
  by_cases bare : f.before = []
  · rw [bare]
    rfl
  · exact ((nextTag?_eq_some h).2.2 false).2 bare

/-- Reading from the left finds the first tag, unless it is escaped, and goes on after it. -/
theorem liveTags_of_nextTag?_some (h : nextTag? cs = some f) :
    liveTags false cs =
      (if f.slashes % 2 = 1 then [] else [f.body]) ++ liveTags false f.after := by
  obtain ⟨isBody, text, before⟩ := nextTag?_eq_some h
  rw [text, Found.text, liveTags_append (.of_unclosing (f.closesFirst_tag f.after)), (before false).1,
    endsOdd_before h, liveTags_replicate, liveTags_bracketed isBody]
  simp

end First

theorem liveTags_escapeTags (cs : List Char) : liveTags false (escapeTags cs) = [] := by
  fun_induction escapeTags cs with
  | case1 cs none => exact liveTags_of_nextTag?_none none
  | case2 cs f found ih =>
    obtain ⟨isBody, -, before⟩ := nextTag?_eq_some found
    have unclosing := ({ f with slashes := 2 * f.slashes + 1 } : Found).closesFirst_tag
      (escapeTags f.after)
    have odd : decide ((2 * f.slashes + 1) % 2 = 1) = true := by
      rw [decide_eq_true_iff]
      omega
    rw [List.append_assoc, List.append_assoc, liveTags_append (.of_unclosing unclosing),
      (before false).1,
      endsOdd_before found, liveTags_replicate, liveTags_bracketed isBody, odd, ih]
    rfl

/-- An escaped text adds no tag to what follows it, but it may escape the first one. -/
theorem liveTags_escapeChars {post : List Char} (unclosing : closesFirst post = false)
    (cs : List Char) :
    liveTags false (escapeChars cs ++ post) =
      liveTags (endsOdd false (escapeChars cs)) post := by
  have none : liveTags false (escapeChars cs) = [] := by
    unfold escapeChars
    simp only
    split
    · rw [liveTags_append (.of_unclosing rfl), liveTags_escapeTags]
      rfl
    · exact liveTags_escapeTags cs
  rw [liveTags_append (.of_unclosing unclosing), none]
  rfl

section Rendering

def tagsOf : List Piece → List (List Char)
  | [] => []
  | .text _ :: rest => tagsOf rest
  | .tag _ body :: rest => body :: tagsOf rest

theorem tagsOf_append (ps qs : List Piece) : tagsOf (ps ++ qs) = tagsOf ps ++ tagsOf qs := by
  induction ps with
  | nil => rfl
  | cons p ps ih => cases p <;> simp [tagsOf, ih]

theorem tagsOf_shown (cs : List Char) : tagsOf (shown cs) = [] := by
  unfold shown
  split <;> rfl

theorem tagsOf_taggedPieces (position slashes : Nat) (body : List Char) :
    tagsOf (taggedPieces position slashes body) = if slashes % 2 = 1 then [] else [body] := by
  unfold taggedPieces
  rw [tagsOf_append, tagsOf_shown]
  split <;> rfl

theorem tagsOf_pieces (position : Nat) (cs : List Char) :
    tagsOf (pieces position cs) = liveTags false cs := by
  fun_induction pieces position cs with
  | case1 position cs none => rw [tagsOf_shown, liveTags_of_nextTag?_none none]
  | case2 position cs f found start ih =>
    rw [tagsOf_append, tagsOf_append, tagsOf_shown, tagsOf_taggedPieces, ih,
      liveTags_of_nextTag?_some found]
    rfl

/-- Whether every closing tag closes what is open, given the styles that are open. -/
def balanced (opened : List (List Char)) : List (List Char) → Bool
  | [] => true
  | body :: rest =>
    match nameOf body with
    | '/' :: name =>
      match close? (Text.trim name) opened with
      | some opened => balanced opened rest
      | none => false
    | name => balanced (styleName name :: opened) rest

theorem showPieces_of_balanced {opened : List (List Char)} {ps : List Piece}
    (h : balanced opened (tagsOf ps)) : ∃ cs, showPieces opened ps = .ok cs := by
  fun_induction showPieces opened ps with
  | case1 => exact ⟨[], rfl⟩
  | case2 opened cs rest ih =>
    obtain ⟨out, shows⟩ := ih h
    exact ⟨shownChars cs ++ out, by rw [shows]; rfl⟩
  | case3 opened position body rest raw closing name opened' closes ih =>
    have known : close? (Text.trim raw) opened = some opened' := closes
    simp only [tagsOf, balanced, closing, known] at h
    exact ih h
  | case4 opened position body rest raw closing name closes =>
    have known : close? (Text.trim raw) opened = none := closes
    simp [tagsOf, balanced, closing, known] at h
  | case5 opened position body rest opening ih =>
    rw [tagsOf, balanced] at h
    split at h
    · rename_i raw closing
      exact absurd closing (opening raw)
    · exact ih h

theorem render_of_balanced {cs : List Char} (h : balanced [] (liveTags false cs)) :
    ∃ out, render cs = .ok out :=
  showPieces_of_balanced (by rwa [tagsOf_pieces])

end Rendering

end Stepwise.Console.Markup
