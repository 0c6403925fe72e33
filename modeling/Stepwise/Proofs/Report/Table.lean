import Mathlib.Data.List.Forall2
import Stepwise.Proofs.Report.Partition
import Stepwise.Proofs.Text.Lines
import Stepwise.Report.Markdown
import Stepwise.Text.Blank

/-! The table of the executed steps, as a reader of Markdown sees it: a line for each row, parted into
cells by its bars. What the cells are about is put between the bars as it is, so the table can be read
if and only if no name and no command line has a line end or a bare bar in it. -/
namespace Stepwise

namespace Text

section Ink

variable {cs : List Char}

/-- What is seen of a text: all but its white space. -/
def ink (cs : List Char) : List Char := cs.filter fun c => !isBlank c

theorem ink_append (cs ds : List Char) : ink (cs ++ ds) = ink cs ++ ink ds := List.filter_append _ _

theorem ink_trimLeft (cs : List Char) : ink (trimLeft cs) = ink cs := by
  unfold ink trimLeft
  induction cs with
  | nil => rfl
  | cons c cs ih =>
    cases blank : isBlank c with
    | true => simpa [blank] using ih
    | false => simp [blank]

theorem ink_reverse (cs : List Char) : ink cs.reverse = (ink cs).reverse := List.filter_reverse

theorem ink_trim (cs : List Char) : ink (trim cs) = ink cs := by
  have right : ∀ ds, ink (trimRight ds) = ink ds := by
    intro ds
    rw [show trimRight ds = (trimLeft ds.reverse).reverse from rfl, ink_reverse, ink_trimLeft,
      ink_reverse, List.reverse_reverse]
  rw [trim, right, ink_trimLeft]

theorem trim_concat_blank {c : Char} (blank : isBlank c = true) (cs : List Char) :
    trim (cs ++ [c]) = trim cs := by
  unfold trim trimLeft
  induction cs with
  | nil => simp [blank]
  | cons d cs ih =>
    cases first : isBlank d with
    | true => simpa [first] using ih
    | false => simp [first, trimRight, blank]

theorem trim_spaced (cs : List Char) : trim (' ' :: (cs ++ [' '])) = trim cs := by
  have opening : trim (' ' :: (cs ++ [' '])) = trim (cs ++ [' ']) := rfl
  rw [opening, trim_concat_blank rfl]

theorem trim_closed {a b : Char} (first : isBlank a = false) (last : isBlank b = false)
    (cs : List Char) : trim (a :: (cs ++ [b])) = a :: (cs ++ [b]) := by
  simp [trim, trimLeft, trimRight, first, last]

theorem trim_of_solid (solid : ∀ c ∈ cs, isBlank c = false) : trim cs = cs := by
  cases cs with
  | nil => rfl
  | cons a rest =>
    rcases List.eq_nil_or_concat rest with rfl | ⟨before, b, rfl⟩
    · simp [trim, trimLeft, trimRight, solid a List.mem_cons_self]
    · rw [List.concat_eq_append] at *
      exact trim_closed (solid a (by simp)) (solid b (by simp)) before

end Ink

/-- If what is seen of the first line is all that is seen of a text, and that text ends with something
to see, then it is one line. -/
theorem oneLine_of_ink {ends : Char → Bool} {cs line rest : List Char} {lines : List (List Char)}
    {c : Char} (split : splitWhere ends (cs ++ rest) = line :: lines)
    (last : cs.getLast? = some c) (seen : isBlank c = false) (same : ink line = ink cs) :
    OneLine ends cs := by
  intro d member
  by_contra ended
  rw [Bool.not_eq_false] at ended
  obtain ⟨before, after, rfl⟩ := List.append_of_mem member
  -- The line ends before the end, and something is seen after that.
  have start : line <+: before := by
    rw [List.append_assoc, List.cons_append, splitWhere_parted ended] at split
    obtain ⟨first, others, pieces⟩ := List.exists_cons_of_ne_nil (splitWhere_ne_nil ends before)
    rw [pieces] at split
    obtain ⟨rfl, -⟩ := List.cons.inj split
    exact start_of_splitWhere pieces
  have short : (ink line).length ≤ (ink before).length := (start.filter _).length_le
  have left : ink (d :: after) = [] := by
    rw [ink_append] at same
    have size := congrArg List.length same
    rw [List.length_append] at size
    exact List.length_eq_zero_iff.mp (by omega)
  have tail : c ∈ d :: after := by
    rw [List.getLast?_append_of_ne_nil _ (List.cons_ne_nil d after)] at last
    exact List.mem_of_getLast? last
  have visible : c ∈ ink (d :: after) := List.mem_filter.mpr ⟨tail, by simp [seen]⟩
  rw [left] at visible
  cases visible

end Text

namespace Summary

open Text

section Cells

/-- The parts of a line between its bare bars, for a line with `n` backslashes right before it. Readers
differ in whether every backslash escapes a bar or every other one in a row, so it is left open how
many do. -/
def cellsOf (escaped : Nat → Bool) : Nat → List Char → List (List Char)
  | _, [] => [[]]
  | n, c :: cs =>
    if c = '|' && !escaped n then [] :: cellsOf escaped 0 cs
    else (cellsOf escaped (if c = '\\' then n + 1 else 0) cs).modifyHead (c :: ·)

variable {escaped : Nat → Bool}

theorem cellsOf_ne_nil (n : Nat) (cs : List Char) : cellsOf escaped n cs ≠ [] := by
  induction cs generalizing n with
  | nil => exact List.cons_ne_nil _ _
  | cons c cs ih =>
    unfold cellsOf
    split
    · exact List.cons_ne_nil _ _
    · simpa using ih _

theorem cellsOf_cons {c : Char} (other : c ≠ '|') (n : Nat) (cs : List Char) :
    cellsOf escaped n (c :: cs) =
      (cellsOf escaped (if c = '\\' then n + 1 else 0) cs).modifyHead (c :: ·) := by
  simp [cellsOf, other]

theorem joinWith_cellsOf (n : Nat) (cs : List Char) :
    joinWith ['|'] (cellsOf escaped n cs) = cs := by
  induction cs generalizing n with
  | nil => rfl
  | cons c cs ih =>
    unfold cellsOf
    split
    · rename_i bare
      obtain ⟨rfl, -⟩ : c = '|' ∧ _ := by simpa using bare
      have joined := ih 0
      obtain ⟨cell, cells, split⟩ := List.exists_cons_of_ne_nil (cellsOf_ne_nil 0 cs)
      rw [split] at joined ⊢
      exact congrArg ('|' :: ·) joined
    · have joined := ih (if c = '\\' then n + 1 else 0)
      obtain ⟨cell, cells, split⟩ := List.exists_cons_of_ne_nil
        (cellsOf_ne_nil (if c = '\\' then n + 1 else 0) cs)
      rw [split] at joined ⊢
      cases cells with
      | nil => exact congrArg (c :: ·) joined
      | cons next cells => exact congrArg (c :: ·) joined

theorem length_cellsOf_concat {c : Char} (other : c ≠ '|') (n : Nat) (cs : List Char) :
    (cellsOf escaped n (cs ++ [c])).length = (cellsOf escaped n cs).length := by
  induction cs generalizing n with
  | nil => simp [cellsOf, other]
  | cons d cs ih =>
    simp only [List.cons_append, cellsOf]
    split
    · simp [ih]
    · simp [ih]

theorem length_cellsOf_of_none {cs : List Char} (none : '|' ∉ cs) (n : Nat) :
    (cellsOf escaped n cs).length = 1 := by
  induction cs generalizing n with
  | nil => rfl
  | cons c cs ih =>
    obtain ⟨first, others⟩ := not_or.mp (List.mem_cons.not.mp none)
    rw [cellsOf_cons (Ne.symm first), List.length_modifyHead, ih others]

theorem cellsOf_parted (bare : escaped 0 = false) (n : Nat) (cs ds : List Char) :
    cellsOf escaped n (cs ++ ' ' :: '|' :: ds) =
      cellsOf escaped n (cs ++ [' ']) ++ cellsOf escaped 0 ds := by
  induction cs generalizing n with
  | nil => simp [cellsOf, bare]
  | cons c cs ih =>
    simp only [List.cons_append, cellsOf]
    split
    · simp [ih]
    · obtain ⟨cell, cells, split⟩ := List.exists_cons_of_ne_nil
        (cellsOf_ne_nil (if c = '\\' then n + 1 else 0) (cs ++ [' ']))
      rw [ih, split]
      rfl

/-- A text without bare bars is one cell. -/
def Barless (escaped : Nat → Bool) (cs : List Char) : Prop := cellsOf escaped 0 cs = [cs]

instance (escaped : Nat → Bool) (cs : List Char) : Decidable (Barless escaped cs) :=
  inferInstanceAs (Decidable (cellsOf escaped 0 cs = [cs]))

theorem barless_iff {cs : List Char} : Barless escaped cs ↔ (cellsOf escaped 0 cs).length = 1 := by
  constructor
  · intro barless
    rw [barless]
    rfl
  · intro one
    obtain ⟨cell, whole⟩ := List.length_eq_one_iff.mp one
    have joined : joinWith ['|'] (cellsOf escaped 0 cs) = cs := joinWith_cellsOf 0 cs
    rw [whole] at joined
    rw [Barless, whole, show cell = cs from joined]

theorem barless_of_none {cs : List Char} (none : '|' ∉ cs) : Barless escaped cs :=
  barless_iff.mpr (length_cellsOf_of_none none 0)

theorem barless_enclosed {a b : Char} (first : a ≠ '|' ∧ a ≠ '\\') (last : b ≠ '|')
    {cs : List Char} : Barless escaped (a :: (cs ++ [b])) ↔ Barless escaped cs := by
  rw [barless_iff, barless_iff, cellsOf_cons first.1, List.length_modifyHead, if_neg first.2,
    length_cellsOf_concat last]

end Cells

section Rows

def rowLine (contents : List (List Char)) : List Char :=
  '|' :: contents.flatMap fun cs => ' ' :: (cs ++ [' ', '|'])

theorem toList_tableRow (first : String) (others : List String) :
    (tableRow (first :: others)).toList =
      rowLine ((first :: others).map String.toList) ++ ['\n'] := by
  have inner : (" | ".intercalate (first :: others)).toList ++ [' ', '|'] =
      first.toList ++ [' ', '|'] ++
        (others.map String.toList).flatMap fun cs => ' ' :: (cs ++ [' ', '|']) := by
    induction others generalizing first with
    | nil => simp [String.intercalate_singleton]
    | cons next others ih =>
      rw [String.intercalate_cons_cons, String.toList_append, String.toList_append,
        List.append_assoc, ih next]
      simp
  have text : (tableRow (first :: others)).toList =
      '|' :: ' ' :: ((" | ".intercalate (first :: others)).toList ++ [' ', '|'] ++ ['\n']) := by
    simp [tableRow, line]
  rw [text, inner]
  simp [rowLine]

theorem toList_code (text : String) :
    (code text).toList = '\x60' :: (text.toList ++ ['\x60']) := by
  simp [code]

variable {escaped : Nat → Bool}

theorem cellsOf_rowLine (bare : escaped 0 = false) (contents : List (List Char)) :
    cellsOf escaped 0 (rowLine contents) =
      [] :: (contents.flatMap (fun cs => cellsOf escaped 0 (' ' :: (cs ++ [' ']))) ++ [[]]) := by
  have body : cellsOf escaped 0 (contents.flatMap fun cs => ' ' :: (cs ++ [' ', '|'])) =
      contents.flatMap (fun cs => cellsOf escaped 0 (' ' :: (cs ++ [' ']))) ++ [[]] := by
    induction contents with
    | nil => rfl
    | cons cs contents ih =>
      have parted := cellsOf_parted bare 0 (' ' :: cs)
        (contents.flatMap fun cs => ' ' :: (cs ++ [' ', '|']))
      simp only [List.flatMap_cons, List.cons_append, List.append_assoc, List.nil_append] at parted ⊢
      rw [parted, ih]
  rw [← body]
  simp [rowLine, cellsOf, bare]

/-- A line is parted by its bare bars into cells that say these texts, with white space around
them. -/
def Reads (escaped : Nat → Bool) (line : List Char) (texts : List (List Char)) : Prop :=
  ∃ cells, cellsOf escaped 0 line = [] :: (cells ++ [[]]) ∧ cells.map trim = texts

theorem length_eq_one_of_flatMap {α β : Type} {f : α → List β} {l : List α}
    (some : ∀ x, f x ≠ []) (h : (l.flatMap f).length = l.length) : ∀ x ∈ l, (f x).length = 1 := by
  have least : ∀ l : List α, l.length ≤ (l.flatMap f).length := by
    intro l
    induction l with
    | nil => exact Nat.le_refl 0
    | cons x l ih =>
      have size := List.length_pos_iff.mpr (some x)
      rw [List.flatMap_cons, List.length_append, List.length_cons]
      omega
  induction l with
  | nil => exact fun x inside => absurd inside List.not_mem_nil
  | cons x l ih =>
    have size := List.length_pos_iff.mpr (some x)
    have others := least l
    rw [List.flatMap_cons, List.length_append, List.length_cons] at h
    exact List.forall_mem_cons.mpr ⟨by omega, ih (by omega)⟩

theorem reads_rowLine (bare : escaped 0 = false) (contents : List (List Char)) :
    Reads escaped (rowLine contents) (contents.map trim) ↔ ∀ cs ∈ contents, Barless escaped cs := by
  have spaced : ∀ cs, Barless escaped cs ↔ Barless escaped (' ' :: (cs ++ [' '])) :=
    fun cs => (barless_enclosed (by decide) (by decide)).symm
  constructor
  · rintro ⟨cells, parted, said⟩ cs inside
    rw [cellsOf_rowLine bare] at parted
    have whole := List.append_cancel_right (List.cons.inj parted).2
    have count := congrArg List.length said
    rw [List.length_map, List.length_map, ← whole] at count
    rw [spaced, barless_iff]
    exact length_eq_one_of_flatMap (fun cs => cellsOf_ne_nil 0 _) count cs inside
  · intro barless
    refine ⟨_, cellsOf_rowLine bare contents, ?_⟩
    rw [List.map_flatMap]
    have each : ∀ cs ∈ contents, (cellsOf escaped 0 (' ' :: (cs ++ [' ']))).map trim = [trim cs] := by
      intro cs inside
      have whole : cellsOf escaped 0 _ = _ := (spaced cs).mp (barless cs inside)
      rw [whole, List.map_singleton, trim_spaced]
    rw [List.flatMap_congr each, List.map_eq_flatMap]

theorem joinWith_closed (sep : List Char) (pieces : List (List Char)) :
    joinWith sep (pieces ++ [[]]) = pieces.flatMap fun cs => cs ++ sep := by
  induction pieces with
  | nil => rfl
  | cons piece pieces ih =>
    obtain ⟨next, others, split⟩ := List.exists_cons_of_ne_nil
      (List.append_ne_nil_of_right_ne_nil pieces (List.cons_ne_nil ([] : List Char) []))
    rw [List.cons_append, split, joinWith, ← split, ih, List.flatMap_cons]
    simp

theorem ink_of_reads {line : List Char} {contents : List (List Char)}
    (reads : Reads escaped line (contents.map trim)) : ink line = ink (rowLine contents) := by
  obtain ⟨cells, parted, said⟩ := reads
  have whole : line = '|' :: cells.flatMap fun cs => cs ++ ['|'] := by
    have joined : joinWith ['|'] (cellsOf escaped 0 line) = line := joinWith_cellsOf 0 line
    rw [← joined, parted, ← List.cons_append, joinWith_closed]
    rfl
  have seen : ∀ pieces : List (List Char), ink (pieces.flatMap fun cs => cs ++ ['|']) =
      (pieces.map ink).flatMap fun cs => cs ++ ['|'] := by
    intro pieces
    rw [ink, List.filter_flatMap, List.flatMap_map]
    exact List.flatMap_congr fun cs _ => ink_append cs ['|']
  have same : cells.map ink = contents.map ink := by
    rw [← show ink ∘ trim = ink from funext ink_trim, ← List.map_map, said, List.map_map]
  have row : rowLine contents =
      '|' :: (contents.map fun cs => ' ' :: (cs ++ [' '])).flatMap fun cs => cs ++ ['|'] := by
    simp [rowLine, List.flatMap_map]
  have spaced : (ink ∘ fun cs => ' ' :: (cs ++ [' '])) = ink := by
    funext cs
    exact (ink_append cs [' ']).trans (List.append_nil (ink cs))
  have first : ∀ cs, ink ('|' :: cs) = '|' :: ink cs := fun _ => rfl
  rw [whole, row, first, first, seen, seen, List.map_map, spaced, same]

end Rows

section Steps

variable {ends : Char → Bool} {escaped : Nat → Bool}

def exitText : Option Int → String
  | some n => toString n
  | none => "-"

def durationText (ms : Int) : String := toString ms ++ "ms"

def statusText (success : Bool) : String := if success then "ok" else "FAILED"

def contents (row : SummaryRow) : List (List Char) :=
  [(toString row.index).toList, row.name.toList, (code row.command).toList,
    (exitText row.exitCode).toList, (durationText row.durationMs).toList,
    (statusText row.success).toList]

theorem toList_stepRow (row : SummaryRow) :
    (stepRow row).toList = rowLine (contents row) ++ ['\n'] :=
  toList_tableRow _ _

theorem simple_exitText (exitCode : Option Int) : Simple (exitText exitCode).toList := by
  cases exitCode with
  | none => decide
  | some n => exact simple_int n

theorem simple_durationText (ms : Int) : Simple (durationText ms).toList := by
  rw [durationText, String.toList_append]
  exact List.forall_mem_append.mpr ⟨simple_int ms, (by decide : Simple "ms".toList)⟩

theorem simple_statusText (success : Bool) : Simple (statusText success).toList := by
  cases success <;> decide

variable (ends escaped) in
/-- A text that can stand in a cell: it has no line end and no bare bar. -/
def Tabular (text : String) : Prop := OneLine ends text.toList ∧ Barless escaped text.toList

instance (text : String) : Decidable (Tabular ends escaped text) :=
  inferInstanceAs (Decidable (_ ∧ _))

theorem tabular_of_simple (lineEnds : LineEnds ends) {cs : List Char}
    (simple : Simple cs) : OneLine ends cs ∧ Barless escaped cs := by
  refine ⟨lineEnds.oneLine simple.ascii, barless_of_none fun inside => ?_⟩
  cases simple '|' inside

theorem oneLine_rowLine (lineEnds : LineEnds ends) (contents : List (List Char)) :
    OneLine ends (rowLine contents) ↔ ∀ cs ∈ contents, OneLine ends cs := by
  have bar : ends '|' = false := lineEnds.printed '|' (by decide) (by decide)
  have space : ends ' ' = false := lineEnds.printed ' ' (by decide) (by decide)
  simp only [OneLine, rowLine, List.forall_mem_cons, bar, List.mem_flatMap, true_and]
  constructor
  · intro all cs inside c member
    exact all c ⟨cs, inside, by simp [member]⟩
  · rintro each c ⟨cs, inside, member⟩
    simp only [List.mem_cons, List.mem_append, List.not_mem_nil, or_false] at member
    rcases member with rfl | within | rfl | rfl
    · exact space
    · exact each cs inside c within
    · exact space
    · exact bar

theorem tabular_code (lineEnds : LineEnds ends) (text : String) :
    OneLine ends (code text).toList ∧ Barless escaped (code text).toList ↔
      Tabular ends escaped text := by
  have tick : ends '\x60' = false := lineEnds.printed '\x60' (by decide) (by decide)
  rw [toList_code, barless_enclosed (by decide) (by decide), Tabular]
  simp [OneLine, or_imp, forall_and, tick]

/-- A row is one line of so many cells if and only if its name and its command line can stand in
cells. -/
theorem contents_iff (lineEnds : LineEnds ends) (row : SummaryRow) :
    (OneLine ends (rowLine (contents row)) ∧ ∀ cs ∈ contents row, Barless escaped cs) ↔
      Tabular ends escaped row.name ∧ Tabular ends escaped row.command := by
  have simple : ∀ {cs}, Simple cs → (OneLine ends cs ∧ Barless escaped cs ↔ True) :=
    fun h => iff_true_intro (tabular_of_simple lineEnds h)
  rw [oneLine_rowLine lineEnds, ← forall₂_and]
  simp only [contents, List.forall_mem_cons, simple (simple_int _), simple (simple_exitText _),
    simple (simple_durationText _), simple (simple_statusText _), tabular_code lineEnds]
  simp [Tabular]

theorem getLast?_rowLine (contents : List (List Char)) :
    (rowLine contents).getLast? = some '|' := by
  rcases List.eq_nil_or_concat contents with rfl | ⟨before, last, rfl⟩
  · rfl
  · have ends : rowLine (before ++ [last]) =
        ('|' :: before.flatMap (fun cs => ' ' :: (cs ++ [' ', '|'])) ++ ' ' :: last ++ [' ']) ++
          ['|'] := by
      simp [rowLine]
    rw [List.concat_eq_append, ends, List.getLast?_concat]

/-- The lines below the head of a table are its rows, each as it is meant, and a blank line, if and only
if what they name and run can stand in cells. -/
theorem rows_read_iff (lineEnds : LineEnds ends) (bare : escaped 0 = false) (rows : List SummaryRow)
    (rest : List Char) :
    (∃ lines more, splitWhere ends ((String.join (rows.map stepRow)).toList ++ '\n' :: rest) =
        lines ++ [] :: more ∧
      List.Forall₂ (Reads escaped) lines (rows.map fun row => (contents row).map trim)) ↔
      ∀ row ∈ rows, Tabular ends escaped row.name ∧ Tabular ends escaped row.command := by
  induction rows with
  | nil =>
    refine iff_of_true ⟨[], splitWhere ends rest, ?_, .nil⟩ nofun
    exact splitWhere_parted lineEnds.newline [] rest
  | cons row rows ih =>
    have text : (String.join ((row :: rows).map stepRow)).toList ++ '\n' :: rest =
        rowLine (contents row) ++
          '\n' :: ((String.join (rows.map stepRow)).toList ++ '\n' :: rest) := by
      rw [List.map_cons, String.join_cons, String.toList_append, toList_stepRow]
      simp
    have parts : OneLine ends (rowLine (contents row)) → splitWhere ends (rowLine (contents row) ++
        '\n' :: ((String.join (rows.map stepRow)).toList ++ '\n' :: rest)) =
          rowLine (contents row) ::
            splitWhere ends ((String.join (rows.map stepRow)).toList ++ '\n' :: rest) := by
      intro oneLine
      rw [splitWhere_parted lineEnds.newline, splitWhere_of_none oneLine, List.singleton_append]
    rw [text, List.forall_mem_cons, ← contents_iff lineEnds, ← ih]
    constructor
    · rintro ⟨lines, more, parted, reads⟩
      rw [List.map_cons] at reads
      cases reads with
      | @cons line _ lines _ first others =>
        -- The first line says all that the row says, so the row does not go on below it.
        have oneLine := oneLine_of_ink parted (getLast?_rowLine _) rfl (ink_of_reads first)
        rw [parts oneLine] at parted
        obtain ⟨rfl, left⟩ := List.cons.inj parted
        exact ⟨⟨oneLine, (reads_rowLine bare _).mp first⟩, lines, more, left, others⟩
    · rintro ⟨⟨oneLine, barless⟩, lines, more, left, others⟩
      refine ⟨rowLine (contents row) :: lines, more, ?_, .cons ?_ others⟩
      · rw [parts oneLine, left, List.cons_append]
      · exact (reads_rowLine bare _).mpr barless

end Steps

section Claim

/-- What the cells of the row of an executed step are to say: its place, its name, its command line
set as code, its exit code if it has one, how long it took and whether it ended well. -/
def cellTexts (j : Nat) (s : Step) (e : StepResult) : List (List Char) :=
  [(toString j).toList, trim s.name.toList, (code (CommandLine.join s.command)).toList,
    (exitText e.exitCode).toList, (durationText e.durationMs).toList, (statusText e.success).toList]

def aboveRows (s : Summary) : String :=
  line ("# Pipeline report: " ++ s.pipelineName) ++ "\n" ++ s.factsTable ++ "\n" ++
    line "## Steps" ++ "\n" ++
    tableRow ["#", "Step", "Command", "Exit code", "Duration", "Status"]

def separator : String := line "|---|------|---------|-----------|----------|--------|"

/-- The text begins with one line for each executed step, in order, whose cells say what they are to
say, and a blank line. -/
def Tabulated (ends : Char → Bool) (escaped : Nat → Bool) (p : Pipeline) (r : Report)
    (text : String) : Prop :=
  ∃ rows more, splitWhere ends text.toList = rows ++ [] :: more ∧
    rows.length = r.stepResults.length ∧
    ∀ j row, rows[j]? = some row → ∃ s e, p.steps[j]? = some s ∧ r.stepResults[j]? = some e ∧
      Reads escaped row (cellTexts j s e)

theorem texts_of_entry {ε : Type} {j : Nat} {s : Step} {reply : Reply ε} {e : StepResult}
    (entry : Course.Entry j s reply e) : (contents e.row).map trim = cellTexts j s e := by
  have solid : ∀ {cs}, Simple cs → trim cs = cs := fun simple => trim_of_solid simple.not_isBlank
  have quoted : ∀ text, trim (code text).toList = (code text).toList := by
    intro text
    rw [toList_code, trim_closed (by decide) (by decide)]
  simp only [contents, StepResult.row, entry.index_eq, entry.name_eq, entry.command_eq, List.map_cons,
    List.map_nil, solid (simple_int _), quoted, solid (simple_exitText _),
    solid (simple_durationText _), solid (simple_statusText _), cellTexts]
  rfl

theorem tabulated_iff_forall₂ {ε : Type} {p : Pipeline} {runId : String}
    {replies : List (Reply ε)} {r : Report} (coherent : Course.Coherent p runId replies r)
    {escaped : Nat → Bool} (rows : List (List Char)) :
    List.Forall₂ (Reads escaped) rows
        ((r.stepResults.map StepResult.row).map fun row => (contents row).map trim) ↔
      rows.length = r.stepResults.length ∧
      ∀ j row, rows[j]? = some row → ∃ s e, p.steps[j]? = some s ∧ r.stepResults[j]? = some e ∧
        Reads escaped row (cellTexts j s e) := by
  have size : ((r.stepResults.map StepResult.row).map fun row => (contents row).map trim).length =
      r.stepResults.length := by rw [List.length_map, List.length_map]
  rw [List.forall₂_iff_get]
  constructor
  · rintro ⟨count, each⟩
    refine ⟨count.trans size, ?_⟩
    intro j row place
    obtain ⟨inside, here⟩ := List.getElem?_eq_some_iff.mp place
    have within : j < r.stepResults.length := by omega
    obtain ⟨s, reply, step, -, entry⟩ := coherent.entries j _ (List.getElem?_eq_getElem within)
    have reads := each j inside (size ▸ within)
    refine ⟨s, _, step, List.getElem?_eq_getElem within, ?_⟩
    simpa [here, texts_of_entry entry] using reads
  · rintro ⟨count, each⟩
    refine ⟨count.trans size.symm, ?_⟩
    intro j inside within
    obtain ⟨s, e, step, result, reads⟩ := each j _ (List.getElem?_eq_getElem inside)
    obtain ⟨s', reply, step', -, entry⟩ := coherent.entries j e result
    cases step.symm.trans step'
    obtain ⟨bound, rfl⟩ := List.getElem?_eq_some_iff.mp result
    simpa [texts_of_entry entry] using reads

/-- The rows of the steps table stand below its head line by line and say what they are to say, if
and only if the names and the command lines of the executed steps have no line end and no bare bar in
them. -/
theorem steps_tabulated_iff {σ ε : Type} (ex : Executor σ ε) (hooks : Hooks σ ε) (base : Context)
    (p : Pipeline) (runId timestamp : String) (w : σ) (r : Report)
    (reported : (p.run ex hooks base runId w).outcome = .ok r) (ends : Char → Bool)
    (lineEnds : LineEnds ends) (escaped : Nat → Bool) (bare : escaped 0 = false) :
    ∃ below, (r.summary p timestamp).render .default = aboveRows (r.summary p timestamp) ++
        separator ++ below ∧
      (Tabulated ends escaped p r below ↔ ∀ s ∈ p.steps.take r.stepResults.length,
        Tabular ends escaped s.name ∧ Tabular ends escaped (CommandLine.join s.command)) := by
  obtain ⟨replies, -, coherent⟩ := Course.coherent_of_reported reported
  let s := r.summary p timestamp
  refine ⟨String.join (s.steps.map stepRow) ++
    ("\n" ++ s.notRunSection ++ "\n" ++ s.failureSection), ?_, ?_⟩
  · simp only [render, markdown, stepsTable, aboveRows, separator, String.append_assoc, s]
  · have text : (String.join (s.steps.map stepRow) ++
        ("\n" ++ s.notRunSection ++ "\n" ++ s.failureSection)).toList =
        (String.join (s.steps.map stepRow)).toList ++
          '\n' :: (s.notRunSection ++ "\n" ++ s.failureSection).toList := by
      simp [String.toList_append]
    have named : (∀ row ∈ s.steps,
        Tabular ends escaped row.name ∧ Tabular ends escaped row.command) ↔
        ∀ step ∈ p.steps.take r.stepResults.length,
          Tabular ends escaped step.name ∧ Tabular ends escaped (CommandLine.join step.command) := by
      rw [← forall_results_iff coherent fun name command =>
        Tabular ends escaped name ∧ Tabular ends escaped (CommandLine.join command)]
      exact List.forall_mem_map
    simp only [Tabulated, ← tabulated_iff_forall₂ coherent, text]
    exact (rows_read_iff lineEnds bare s.steps _).trans named

def echo (text : String) : Pipeline where
  name := "echo"
  steps := [⟨["echo", text], "", ∅, none, runnable_cons rfl⟩]
  env := ∅
  nonempty := by simp

/-- A row with a bar in its command line cannot be read, for bars that one backslash escapes, and one
without can. -/
theorem steps_tabulated_echo :
    (∃ r below, ((echo "a").run Course.listed .silent Course.source "run"
        [.completed ⟨0, none, none, 0⟩]).outcome = .ok r ∧
      (r.summary (echo "a") "now").render .default = aboveRows (r.summary (echo "a") "now") ++
        separator ++ below ∧
      Tabulated (· = '\n') (0 < ·) (echo "a") r below) ∧
    ∃ r below, ((echo "a|b").run Course.listed .silent Course.source "run"
        [.completed ⟨0, none, none, 0⟩]).outcome = .ok r ∧
      (r.summary (echo "a|b") "now").render .default = aboveRows (r.summary (echo "a|b") "now") ++
        separator ++ below ∧
      ¬ Tabulated (· = '\n') (0 < ·) (echo "a|b") r below := by
  constructor
  · obtain ⟨below, text, tabulated⟩ := steps_tabulated_iff Course.listed .silent Course.source
      (echo "a") "run" "now" [.completed ⟨0, none, none, 0⟩] _ rfl _ .newline_only
      (fun n => 0 < n) rfl
    refine ⟨_, below, rfl, text, tabulated.mpr ?_⟩
    exact List.forall_mem_singleton.mpr ⟨by decide, by decide⟩
  · obtain ⟨below, text, tabulated⟩ := steps_tabulated_iff Course.listed .silent Course.source
      (echo "a|b") "run" "now" [.completed ⟨0, none, none, 0⟩] _ rfl _ .newline_only
      (fun n => 0 < n) rfl
    refine ⟨_, below, rfl, text, fun read => ?_⟩
    have tabular := (tabulated.mp read _ List.mem_cons_self).2
    exact absurd tabular (by decide)

end Claim

end Summary

end Stepwise
