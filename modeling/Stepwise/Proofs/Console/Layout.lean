import Stepwise.Proofs.Console.Printing
import Stepwise.Proofs.Text.Lines

/-! Lines that need no laying out. A line without tabs that takes no more cells than there are is
left as it is: its words take no more cells than the line, so none of them is put on another line.
Only blanks at the end of a line of too many characters are dropped. -/
namespace Stepwise

namespace Text

theorem flatMap_eq_joinWith (sep : List Char) {pieces : List (List Char)} (h : pieces ≠ []) :
    pieces.flatMap (· ++ sep) = joinWith sep pieces ++ sep := by
  induction pieces with
  | nil => exact absurd rfl h
  | cons piece pieces ih =>
    cases pieces with
    | nil => simp [joinWith]
    | cons next pieces =>
      rw [List.flatMap_cons, ih (List.cons_ne_nil next pieces)]
      simp [joinWith]

theorem trimRight_prefix (cs : List Char) : trimRight cs <+: cs := by
  have ending : cs.reverse.dropWhile isBlank <:+ cs.reverse := List.dropWhile_suffix _
  simpa [trimRight] using List.reverse_prefix.mpr ending

end Text

namespace Console

section Cells

variable {cs ds : List Char}

theorem cellsAfter_selector (last : Option Char) (cs : List Char) :
    cellsAfter last (selector :: cs) = (if last.any widens then 1 else 0) + cellsAfter none cs := by
  conv => lhs; unfold cellsAfter
  rfl

theorem cellsAfter_other {c : Char} (h : c ≠ joiner) (h' : c ≠ selector) (last : Option Char)
    (cs : List Char) : cellsAfter last (c :: cs) =
      cellsOf c + cellsAfter (if cellsOf c = 0 then last else some c) cs := by
  conv => lhs; unfold cellsAfter
  rw [if_neg h, if_neg h']

theorem cellsAfter_none_le (last : Option Char) (cs : List Char) :
    cellsAfter none cs ≤ cellsAfter last cs := by
  induction last, cs using cellsAfter.induct with
  | case1 => exact Nat.le_refl _
  | case2 => exact Nat.le_refl _
  | case3 last d cs ih => exact ih
  | case4 last cs other ih =>
    rw [cellsAfter_selector, cellsAfter_selector]
    exact Nat.add_le_add_right (Nat.zero_le _) _
  | case5 last c cs other other' n ih =>
    rw [cellsAfter_other other other', cellsAfter_other other other']
    split
    · rename_i nothing
      simp only [n, nothing, if_true] at ih
      exact Nat.add_le_add_left ih _
    · exact Nat.le_refl _

theorem cellsAfter_prefix (last : Option Char) (cs ds : List Char) :
    cellsAfter last cs ≤ cellsAfter last (cs ++ ds) := by
  induction last, cs using cellsAfter.induct with
  | case1 => exact Nat.zero_le _
  | case2 => exact Nat.zero_le _
  | case3 last d cs ih => exact ih
  | case4 last cs other ih =>
    rw [List.cons_append, cellsAfter_selector, cellsAfter_selector]
    exact Nat.add_le_add_left ih _
  | case5 last c cs other other' n ih =>
    rw [List.cons_append, cellsAfter_other other other', cellsAfter_other other other']
    exact Nat.add_le_add_left ih _

/-- The cells of two texts are those of each, and maybe one more where a selector comes first, unless
a joiner at the end of the first hides what follows. -/
theorem cellsAfter_append (last : Option Char) (h : cs.getLast? ≠ some joiner) (ds : List Char) :
    cellsAfter last cs + cells ds ≤ cellsAfter last (cs ++ ds) := by
  -- The rules for joiners look ahead, so the cases are those of the count itself.
  have later : ∀ {c : Char} {cs : List Char}, (c :: cs).getLast? ≠ some joiner →
      cs.getLast? ≠ some joiner := by
    intro c cs h
    cases cs with
    | nil => nofun
    | cons d cs => rwa [List.getLast?_cons_cons] at h
  induction last, cs using cellsAfter.induct with
  | case1 last =>
    rw [cellsAfter, Nat.zero_add]
    exact cellsAfter_none_le last ds
  | case2 => exact absurd rfl h
  | case3 last d cs ih => exact ih (later (later h))
  | case4 last cs other ih =>
    rw [List.cons_append, cellsAfter_selector, cellsAfter_selector, Nat.add_assoc]
    exact Nat.add_le_add_left (ih (later h)) _
  | case5 last c cs other other' n ih =>
    rw [List.cons_append, cellsAfter_other other other', cellsAfter_other other other',
      Nat.add_assoc]
    exact Nat.add_le_add_left (ih (later h)) _

end Cells

section Words

theorem wordsOf_succ (fuel : Nat) (cs : List Char) :
    wordsOf (fuel + 1) cs = [] ∨ ∃ word rest, cs = word ++ rest ∧
      wordsOf (fuel + 1) cs = word :: wordsOf fuel rest ∧
      (word.getLast? ≠ some joiner ∨ rest = []) := by
  by_cases none : ((cs.dropWhile Text.isBlank).takeWhile (!Text.isBlank ·)).isEmpty
  · left
    simp only [wordsOf, Markup.drop_takeWhile, none, if_true]
  · right
    let left := (cs.dropWhile Text.isBlank).dropWhile (!Text.isBlank ·)
    refine ⟨cs.takeWhile Text.isBlank ++ (cs.dropWhile Text.isBlank).takeWhile (!Text.isBlank ·) ++
      left.takeWhile Text.isBlank, left.dropWhile Text.isBlank, ?_, ?_, ?_⟩
    · rw [List.append_assoc, List.append_assoc, List.takeWhile_append_dropWhile,
        List.takeWhile_append_dropWhile, List.takeWhile_append_dropWhile]
    · simp only [wordsOf, Markup.drop_takeWhile, none, left]
      rfl
    · cases after : left with
      | nil => exact .inr rfl
      | cons c rest =>
        left
        have blank : Text.isBlank c := by
          have stops := List.head?_dropWhile_not (!Text.isBlank ·) (cs.dropWhile Text.isBlank)
          have here : (cs.dropWhile Text.isBlank).dropWhile (!Text.isBlank ·) = c :: rest := after
          rw [here] at stops
          simpa using stops
        rw [List.takeWhile_cons_of_pos blank, List.getLast?_append_of_ne_nil _ (List.cons_ne_nil _ _)]
        intro last
        have member : joiner ∈ (c :: rest).takeWhile Text.isBlank := by
          rw [List.takeWhile_cons_of_pos blank]
          exact List.mem_of_getLast? last
        have joins := List.mem_takeWhile_imp member
        revert joins
        decide

theorem wordsOf_flatten (fuel : Nat) (cs : List Char) :
    (wordsOf fuel cs).flatten <+: cs ∧ total ((wordsOf fuel cs).map cells) ≤ cells cs := by
  induction fuel generalizing cs with
  | zero => exact ⟨List.nil_prefix, Nat.zero_le _⟩
  | succ fuel ih =>
    rcases wordsOf_succ fuel cs with none | ⟨word, rest, rfl, words, ends⟩
    · rw [none]
      exact ⟨List.nil_prefix, Nat.zero_le _⟩
    · obtain ⟨begins, sum⟩ := ih rest
      rw [words]
      constructor
      · exact (List.prefix_append_right_inj word).mpr begins
      · show cells word + total ((wordsOf fuel rest).map cells) ≤ _
        rcases ends with apart | rfl
        · have both := cellsAfter_append none apart rest
          unfold cells at sum ⊢ both
          omega
        · have none : cells [] = 0 := rfl
          rw [List.append_nil]
          omega

variable {overflow : Overflow} {width : Nat}

theorem Filled.add_eq_append {f : Filled} {word : List Char} (h : f.used + cells word ≤ width) :
    f.add overflow width word = f.append word := by
  obtain ⟨after, whole⟩ := Text.trimRight_prefix word
  have size : cells (Text.trimRight word) ≤ cells word := by
    conv => rhs; rw [← whole]
    exact cellsAfter_prefix none _ after
  unfold Filled.add
  rw [if_pos (Nat.le_trans (Nat.add_le_add_left size f.used) h)]

theorem foldl_add_line (line : List Char) (used : Nat) {words : List (List Char)}
    (h : used + total (words.map cells) ≤ width) :
    (words.foldl (Filled.add overflow width) ⟨[line], used⟩).lines = [line ++ words.flatten] := by
  induction words generalizing line used with
  | nil => simp
  | cons word words ih =>
    have fits : used + cells word + total (words.map cells) ≤ width := by
      rw [Nat.add_assoc]
      exact h
    have first : Filled.add overflow width ⟨[line], used⟩ word = (⟨[line], used⟩ : Filled).append word :=
      Filled.add_eq_append (Nat.le_trans (Nat.le_add_right _ _) fits)
    rw [List.foldl_cons, first]
    have rest := ih (line ++ word) (used + cells word) fits
    simpa [Filled.append] using rest

theorem fillLines_of_cells {cs : List Char} (h : cells cs ≤ width) :
    fillLines overflow width cs = [cs] := by
  obtain ⟨⟨left, whole⟩, sum⟩ := wordsOf_flatten (cs.length + 1) cs
  have rest : cs.drop (wordsOf (cs.length + 1) cs).flatten.length = left := by
    conv => lhs; rhs; rw [← whole]
    exact List.drop_left
  unfold fillLines
  simp only [rest]
  cases words : wordsOf (cs.length + 1) cs with
  | nil =>
    rw [words] at whole
    simpa using whole
  | cons word words' =>
    rw [words] at whole sum
    have fits : cells word + total (words'.map cells) ≤ width := Nat.le_trans sum h
    have first : Filled.add overflow width ⟨[], 0⟩ word = ⟨[word], cells word⟩ := by
      rw [Filled.add_eq_append (by rw [Nat.zero_add]; exact Nat.le_trans (Nat.le_add_right _ _) fits)]
      simp [Filled.append]
    rw [List.foldl_cons, first]
    simp only [foldl_add_line word (cells word) fits]
    simpa using whole

end Words

section Lines

variable {width : Nat} {line cs : List Char}

/-- A line is printed as it is: it has no tabs, takes no more cells than there are, and if it has
more characters than that, it does not end in a blank. -/
structure Fits (width : Nat) (line : List Char) : Prop where
  tabs : '\t' ∉ line
  cells : cells line ≤ width
  blanks : line.length ≤ width ∨ Text.trimRight line = line

instance (width : Nat) (line : List Char) : Decidable (Fits width line) :=
  decidable_of_iff ('\t' ∉ line ∧ Console.cells line ≤ width ∧
      (line.length ≤ width ∨ Text.trimRight line = line))
    ⟨fun ⟨tabs, cells, blanks⟩ => ⟨tabs, cells, blanks⟩,
      fun ⟨tabs, cells, blanks⟩ => ⟨tabs, cells, blanks⟩⟩

theorem Fits.expandTabs_eq (h : Fits width line) : expandTabs line = line := by
  have whole : Text.splitAt '\t' line = [line] := by
    apply Text.splitWhere_of_none
    rintro c member
    have other : c ≠ '\t' := by
      rintro rfl
      exact h.tabs member
    simpa using other
  rw [expandTabs, whole]
  rfl

theorem Fits.dropExcess_eq (h : Fits width line) : dropExcess width line = line := by
  unfold dropExcess
  rcases h.blanks with short | unblank
  · have none : line.length - width = 0 := Nat.sub_eq_zero_of_le short
    simp [none]
  · simp [unblank]

theorem wrap_of_fits (h : ∀ line ∈ Text.splitAt '\n' cs, Fits width line) :
    wrap .fold .natural width cs = Text.splitAt '\n' cs := by
  have each : ∀ line ∈ Text.splitAt '\n' cs,
      ((fillLines .fold width (expandTabs line)).map fun l =>
        cut .fold width (justifyLine .fold .natural width (dropExcess width l))) = [line] := by
    intro line member
    have fits := h line member
    rw [fits.expandTabs_eq, fillLines_of_cells fits.cells]
    simp [fits.dropExcess_eq, justifyLine, cut, fits.cells]
  unfold wrap
  rw [List.flatMap_def, List.map_congr_left each]
  exact List.flatMap_singleton' _

theorem endLines_wrap (h : ∀ line ∈ Text.splitAt '\n' cs, Fits width line) :
    endLines (wrap .fold .natural width cs) = String.ofList (cs ++ ['\n']) := by
  have some : Text.splitAt '\n' cs ≠ [] := Text.splitWhere_ne_nil _ cs
  rw [wrap_of_fits h, endLines, Text.flatMap_eq_joinWith _ some, Text.joinWith_splitAt]

end Lines

end Console

end Stepwise
