import Stepwise.Console
import Stepwise.Proofs.Console.Tags
import Stepwise.Proofs.Text.Legible

/-! What can be written can still be written when it is rendered and laid out. Rendering leaves
characters out and puts pictures in, all of which have octets, and laying out adds spaces and an
ellipsis only. So a text without lone surrogates whose tags are balanced is printed. -/
namespace Stepwise

namespace Console

namespace Markup

variable {cs : List Char}

theorem legible_pictures : ∀ e ∈ pictures, Legible e.2 := by
  have table : pictures.all (fun e => e.2.all (!Text.isLone ·)) := by decide +kernel
  simpa [Legible] using table

theorem legible_pictureOf? {name picture : List Char} (h : pictureOf? name = some picture) :
    Legible picture := by
  obtain ⟨before, after, table, -⟩ := List.lookup_eq_some_iff.mp h
  exact legible_pictures (String.ofList (Text.lower name), picture)
    (by rw [table]; exact List.mem_append_right _ List.mem_cons_self)

theorem legible_picture? {name picture : List Char} (h : picture? name = some picture) :
    Legible picture := by
  unfold picture? at h
  simp only at h
  split at h
  · rename_i ending mark form
    obtain ⟨bare, found, rfl⟩ := Option.map_eq_some_iff.mp h
    have known : (ending, mark) ∈ pictureForms := List.mem_of_find?_eq_some form
    have marks : ∀ form ∈ pictureForms, Text.isLone form.2 = false := by decide +kernel
    have mark_legible : Text.isLone mark = false := marks (ending, mark) known
    exact (legible_pictureOf? found).append (.cons mark_legible .nil)
  · exact legible_pictureOf? h

theorem legible_putPictures (h : Legible cs) : Legible (putPictures cs) := by
  fun_induction putPictures cs with
  | case1 => exact .nil
  | case2 cs name after closed ih =>
    obtain ⟨colon, rest⟩ := h.of_cons
    have inside : Legible (':' :: after) := rest.sub (closed ▸ List.drop_subset _ _)
    refine .append ?_ (ih (inside.sub (List.subset_cons_self _ _)))
    cases found : picture? name with
    | some picture => exact legible_picture? found
    | none =>
      have named : Legible name := rest.sub (List.takeWhile_prefix _).subset
      exact .append (.cons colon named) (.cons colon .nil)
  | case3 cs name other ih =>
    obtain ⟨colon, rest⟩ := h.of_cons
    exact .cons colon (ih rest)
  | case4 c cs other ih =>
    obtain ⟨first, rest⟩ := h.of_cons
    exact .cons first (ih rest)

theorem dropSlashes_subset (cs : List Char) : dropSlashes cs ⊆ cs := by
  fun_induction dropSlashes cs with
  | case1 cs ih => exact List.subset_cons_of_subset _ (List.cons_subset_cons _ ih)
  | case2 c cs other ih => exact List.cons_subset_cons _ ih
  | case3 => exact List.Subset.refl _

theorem legible_shownChars (h : Legible cs) : Legible (shownChars cs) :=
  (legible_putPictures (h.sub (dropSlashes_subset cs))).sub List.filter_sublist.subset

theorem mem_shown {t : List Char} (h : .text t ∈ shown cs) : t = cs := by
  unfold shown at h
  split at h
  · cases h
  · cases List.mem_singleton.mp h
    rfl

theorem text_of_taggedPieces {position slashes : Nat} {body t : List Char}
    (h : .text t ∈ taggedPieces position slashes body) :
    t = List.replicate (slashes / 2) '\\' ∨ t = bracketed body := by
  rcases List.mem_append.mp h with slash | tag
  · exact .inl (mem_shown slash)
  · rw [List.mem_singleton] at tag
    split at tag
    · cases tag
      exact .inr rfl
    · cases tag

theorem legible_pieces {position : Nat} (h : Legible cs) {t : List Char}
    (part : .text t ∈ pieces position cs) : Legible t := by
  fun_induction pieces position cs with
  | case1 position cs none => exact mem_shown part ▸ h
  | case2 position cs f found start ih =>
    obtain ⟨-, text, -⟩ := nextTag?_eq_some found
    rw [text] at h
    obtain ⟨before, others⟩ := h.of_append
    obtain ⟨slashes, others⟩ := others.of_append
    obtain ⟨tag, after⟩ := others.of_append
    rcases List.mem_append.mp part with first | rest
    · rcases List.mem_append.mp first with plain | tagged
      · exact mem_shown plain ▸ before
      · rcases text_of_taggedPieces tagged with rfl | rfl
        · exact .replicate (by decide) _
        · exact tag
    · exact ih after rest

theorem legible_showPieces {opened : List (List Char)} {ps : List Piece} {out : List Char}
    (h : ∀ t, .text t ∈ ps → Legible t) (shows : showPieces opened ps = .ok out) : Legible out := by
  fun_induction showPieces opened ps generalizing out with
  | case1 =>
    cases shows
    exact .nil
  | case2 opened cs rest ih =>
    cases later : showPieces opened rest with
    | error f =>
      rw [later] at shows
      cases shows
    | ok more =>
      rw [later] at shows
      cases shows
      have first : Legible cs := h cs List.mem_cons_self
      exact (legible_shownChars first).append
        (ih (fun t member => h t (List.mem_cons_of_mem _ member)) later)
  | case3 opened position body rest raw closing name opened' closes =>
    rename_i ih
    exact ih (fun t member => h t (List.mem_cons_of_mem _ member)) shows
  | case4 => cases shows
  | case5 opened position body rest opening ih =>
    exact ih (fun t member => h t (List.mem_cons_of_mem _ member)) shows

theorem legible_render {out : List Char} (h : Legible cs) (renders : render cs = .ok out) :
    Legible out :=
  legible_showPieces (fun _ part => legible_pieces h part) renders

theorem legible_escapeTags (h : Legible cs) : Legible (escapeTags cs) := by
  fun_induction escapeTags cs with
  | case1 => exact h
  | case2 cs f found ih =>
    obtain ⟨-, text, -⟩ := nextTag?_eq_some found
    rw [text] at h
    obtain ⟨before, others⟩ := h.of_append
    obtain ⟨-, others⟩ := others.of_append
    obtain ⟨tag, after⟩ := others.of_append
    exact ((before.append (.replicate (by decide) _)).append tag).append (ih after)

theorem legible_escapeChars (h : Legible cs) : Legible (escapeChars cs) := by
  unfold escapeChars
  simp only
  split
  · exact (legible_escapeTags h).append (.cons (by decide) .nil)
  · exact legible_escapeTags h

end Markup

section Layout

variable {cs : List Char} {overflow : Overflow} {width : Nat}

theorem splitWhere_subset {p : Char → Bool} {cs piece : List Char}
    (h : piece ∈ Text.splitWhere p cs) : piece ⊆ cs := by
  induction cs generalizing piece with
  | nil =>
    cases List.mem_singleton.mp h
    exact List.nil_subset _
  | cons c cs ih =>
    unfold Text.splitWhere at h
    split at h
    · rcases List.mem_cons.mp h with rfl | member
      · exact List.nil_subset _
      · exact List.subset_cons_of_subset _ (ih member)
    · split at h
      · rename_i none
        exact absurd none (Text.splitWhere_ne_nil p cs)
      · rename_i first rest parts
        rcases List.mem_cons.mp h with rfl | member
        · exact List.cons_subset_cons _ (ih (parts ▸ List.mem_cons_self))
        · exact List.subset_cons_of_subset _ (ih (parts ▸ List.mem_cons_of_mem _ member))

theorem legible_joinTabs {used : Nat} {parts : List (List Char)}
    (h : ∀ part ∈ parts, Legible part) : Legible (joinTabs used parts) := by
  fun_induction joinTabs used parts with
  | case1 => exact .nil
  | case2 used part => exact h part List.mem_cons_self
  | case3 used part parts other ended next more ih =>
    obtain ⟨first, others⟩ := List.forall_mem_cons.mp h
    have spaced : Legible ended := first.append (.cons (by decide) .nil)
    exact (spaced.append (.spaces _)).append (ih others)

theorem legible_expandTabs (h : Legible cs) : Legible (expandTabs cs) :=
  legible_joinTabs fun _ part => h.sub (splitWhere_subset part)

theorem legible_wordsOf {fuel : Nat} (h : Legible cs) : ∀ word ∈ wordsOf fuel cs, Legible word := by
  fun_induction wordsOf fuel cs with
  | case1 => simp
  | case2 => simp
  | case3 cs fuel before rest word some rest' after ih =>
    have kept : Legible before := h.sub (List.takeWhile_prefix _).subset
    have left : Legible rest := h.sub (List.drop_subset _ _)
    have left' : Legible rest' := left.sub (List.drop_subset _ _)
    have full : Legible (before ++ word ++ after) :=
      (kept.append (left.sub (List.takeWhile_prefix _).subset)).append
        (left'.sub (List.takeWhile_prefix _).subset)
    exact List.forall_mem_cons.mpr ⟨full, ih (left'.sub (List.drop_subset _ _))⟩

namespace Grapheme

theorem legible_extend {g : Grapheme} (h : Legible g.chars) (more : Legible cs) :
    Legible (g.extend cs).chars :=
  h.append more

theorem legible_after {done : List Grapheme} {last : Option Char} (h : Legible cs)
    (before : ∀ g ∈ done, Legible g.chars) : ∀ g ∈ after done last cs, Legible g.chars := by
  fun_induction after done last cs with
  | case1 done last => simpa using before
  | case2 done last c cs n takes ih =>
    obtain ⟨first, rest⟩ := h.of_cons
    exact ih rest (List.forall_mem_cons.mpr ⟨.cons first .nil, before⟩)
  | case3 last c cs n takes ih =>
    obtain ⟨first, rest⟩ := h.of_cons
    exact ih rest (List.forall_mem_cons.mpr ⟨.cons first .nil, before⟩)
  | case4 last g done n takes =>
    obtain ⟨kept, others⟩ := List.forall_mem_cons.mp before
    intro g' member
    rcases List.mem_cons.mp (List.mem_reverse.mp member) with rfl | member
    · exact legible_extend kept h
    · exact others g' member
  | case5 last g done d cs n takes ih =>
    obtain ⟨joined, rest⟩ := h.of_cons
    obtain ⟨next, rest⟩ := rest.of_cons
    obtain ⟨kept, others⟩ := List.forall_mem_cons.mp before
    have whole := legible_extend kept (.cons joined (.cons next .nil))
    exact ih rest (List.forall_mem_cons.mpr ⟨whole, others⟩)
  | case6 last c cs n takes g done other selects ih =>
    obtain ⟨first, rest⟩ := h.of_cons
    obtain ⟨kept, others⟩ := List.forall_mem_cons.mp before
    exact ih rest (List.forall_mem_cons.mpr ⟨legible_extend kept (.cons first .nil), others⟩)
  | case7 last c cs n takes g done other plain ih =>
    obtain ⟨first, rest⟩ := h.of_cons
    obtain ⟨kept, others⟩ := List.forall_mem_cons.mp before
    exact ih rest (List.forall_mem_cons.mpr ⟨legible_extend kept (.cons first .nil), others⟩)

theorem legible_ofText (h : Legible cs) : ∀ g ∈ ofText cs, Legible g.chars :=
  legible_after h (by simp)

theorem legible_take {gs : List Grapheme} (h : ∀ g ∈ gs, Legible g.chars) :
    Legible (take width gs) := by
  fun_induction take width gs with
  | case1 => exact .nil
  | case2 => exact .nil
  | case3 width g gs some fits ih =>
    obtain ⟨first, rest⟩ := List.forall_mem_cons.mp h
    exact first.append (ih rest)
  | case4 => exact .spaces 1

theorem legible_chopAfter {piece : List Char} {used : Nat} {gs : List Grapheme}
    (begun : Legible piece) (h : ∀ g ∈ gs, Legible g.chars) :
    ∀ line ∈ chopAfter width piece used gs, Legible line := by
  fun_induction chopAfter width piece used gs with
  | case1 => simp
  | case2 piece used some => simpa using begun
  | case3 piece used g gs full ih =>
    obtain ⟨first, rest⟩ := List.forall_mem_cons.mp h
    exact List.forall_mem_cons.mpr ⟨begun, ih first rest⟩
  | case4 piece used g gs fits ih =>
    obtain ⟨first, rest⟩ := List.forall_mem_cons.mp h
    exact ih (begun.append first) rest

end Grapheme

theorem legible_chop (h : Legible cs) : ∀ line ∈ chop width cs, Legible line :=
  Grapheme.legible_chopAfter .nil (Grapheme.legible_ofText h)

theorem legible_fill (h : Legible cs) : Legible (fill width cs) := h.append (.spaces _)

theorem legible_exactly (h : Legible cs) : Legible (exactly width cs) := by
  unfold exactly
  split
  · exact legible_fill h
  · exact Grapheme.legible_take (Grapheme.legible_ofText h)

theorem legible_cut (h : Legible cs) : Legible (cut overflow width cs) := by
  unfold cut
  split
  · exact h
  · cases overflow with
    | fold => exact legible_exactly h
    | ellipsis => exact (legible_exactly h).append (.cons (by decide) .nil)

theorem legible_trimRight (h : Legible cs) : Legible (Text.trimRight cs) := by
  apply h.sub
  intro c member
  exact List.mem_reverse.mp ((List.dropWhile_suffix _).subset (List.mem_reverse.mp member))

theorem legible_justifyLine {justify : Justify} (h : Legible cs) :
    Legible (justifyLine overflow justify width cs) := by
  cases justify with
  | natural => exact h
  | left =>
    simp only [justifyLine]
    split
    · exact legible_fill h
    · exact legible_cut h
  | center => exact legible_fill ((Legible.spaces _).append (legible_cut (legible_trimRight h)))
  | right => exact (Legible.spaces _).append (legible_cut (legible_trimRight h))

namespace Filled

variable {f : Filled}

theorem legible_append (h : ∀ line ∈ f.lines, Legible line) (word : Legible cs) :
    ∀ line ∈ (f.append cs).lines, Legible line := by
  unfold append
  split
  · simpa using word
  · rename_i line lines begun
    rw [begun] at h
    obtain ⟨first, rest⟩ := List.forall_mem_cons.mp h
    exact List.forall_mem_cons.mpr ⟨first.append word, rest⟩

theorem legible_newLine (h : ∀ line ∈ f.lines, Legible line) (word : Legible cs) :
    ∀ line ∈ (f.newLine cs).lines, Legible line := by
  unfold newLine
  split
  · simpa using word
  · exact List.forall_mem_cons.mpr ⟨word, h⟩

theorem legible_folded (empty : Bool) {pieces : List (List Char)} {acc : Filled × Bool}
    (h : ∀ line ∈ acc.1.lines, Legible line) (each : ∀ piece ∈ pieces, Legible piece) :
    ∀ line ∈ (pieces.foldl (fun (acc : Filled × Bool) piece =>
        if acc.2 && empty then (⟨[piece], cells piece⟩, false)
        else if piece.isEmpty then acc
        else (acc.1.newLine piece, false)) acc).1.lines, Legible line := by
  induction pieces generalizing acc with
  | nil => exact h
  | cons piece pieces ih =>
    obtain ⟨first, rest⟩ := List.forall_mem_cons.mp each
    rw [List.foldl_cons]
    apply ih _ rest
    split
    · simpa using first
    · split
      · exact h
      · exact legible_newLine h first

theorem legible_add (h : ∀ line ∈ f.lines, Legible line) (word : Legible cs) :
    ∀ line ∈ (f.add overflow width cs).lines, Legible line := by
  unfold add
  simp only
  split
  · exact legible_append h word
  · split
    · cases overflow with
      | fold => exact legible_folded f.lines.isEmpty h (legible_chop word)
      | ellipsis => exact legible_newLine h word
    · split
      · exact legible_newLine h word
      · exact legible_append h word

theorem foldl_add_legible {words : List (List Char)} (h : ∀ line ∈ f.lines, Legible line)
    (each : ∀ word ∈ words, Legible word) :
    ∀ line ∈ (words.foldl (add overflow width) f).lines, Legible line := by
  induction words generalizing f with
  | nil => exact h
  | cons word words ih =>
    obtain ⟨first, rest⟩ := List.forall_mem_cons.mp each
    exact ih (legible_add h first) rest

end Filled

theorem legible_fillLines (h : Legible cs) :
    ∀ line ∈ fillLines overflow width cs, Legible line := by
  have left : Legible (cs.drop (wordsOf (cs.length + 1) cs).flatten.length) :=
    h.sub (List.drop_subset _ _)
  have filled : ∀ line ∈ ((wordsOf (cs.length + 1) cs).foldl (Filled.add overflow width)
      ⟨[], 0⟩).lines, Legible line := Filled.foldl_add_legible (by simp) (legible_wordsOf h)
  unfold fillLines
  simp only
  split
  · simpa using left
  · rename_i line lines begun
    rw [begun] at filled
    obtain ⟨first, rest⟩ := List.forall_mem_cons.mp filled
    intro l member
    rw [List.mem_reverse] at member
    exact List.forall_mem_cons.mpr ⟨first.append left, rest⟩ l member

theorem legible_wrap {justify : Justify} (h : Legible cs) :
    ∀ line ∈ wrap overflow justify width cs, Legible line := by
  intro out member
  obtain ⟨line, inside, laid⟩ := List.mem_flatMap.mp member
  have expanded := legible_expandTabs (h.sub (splitWhere_subset inside))
  obtain ⟨l, filled, rfl⟩ := List.mem_map.mp laid
  have whole := legible_fillLines expanded l filled
  exact legible_cut (legible_justifyLine (whole.sub (List.take_subset _ _)))

theorem legible_endLines {lines : List (List Char)} (h : ∀ line ∈ lines, Legible line) :
    Legible (endLines lines).toList := by
  unfold endLines
  rw [String.toList_ofList]
  intro c member
  obtain ⟨line, inside, here⟩ := List.mem_flatMap.mp member
  exact ((h line inside).append (.cons (by decide) .nil)) c here

end Layout

section Printing

theorem writable_of_legible {s : String} (h : Legible s.toList) : writable s = .ok s := by
  have fine : ∀ (cs : List Char) (position : Nat), Legible cs →
      Text.Utf8.encodeErrorFrom (fun _ => false) position cs = none := by
    intro cs
    induction cs with
    | nil => exact fun _ _ => rfl
    | cons c cs ih =>
      intro position legible
      obtain ⟨first, rest⟩ := legible.of_cons
      simp [Text.Utf8.encodeErrorFrom, first, ih _ rest]
  simp only [writable, Text.Utf8.encodeError?, fine s.toList 0 h]

theorem printed_of_legible {markup : String} (h : Legible markup.toList)
    (tags : Markup.balanced [] (Markup.liveTags false markup.toList)) (width : Nat) :
    ∃ text, printed width markup = .ok text := by
  obtain ⟨out, renders⟩ := Markup.render_of_balanced tags
  refine ⟨endLines (wrap .fold .natural width out), ?_⟩
  unfold printed
  rw [renders]
  exact writable_of_legible (legible_endLines (legible_wrap (Markup.legible_render h renders)))

end Printing

end Console

end Stepwise
