import Stepwise.Proofs.Report.Table

/-! The blocks of code in a report, as a reader of Markdown finds them. What is told of a failure is
put between fences as it is, and so are names and command lines elsewhere. The fences of the report
are the only ones if and only if no line but the first of what is told begins like one. -/
namespace Stepwise

namespace Summary

open Text

section Calm

/-- A line at which a block of code begins or ends. -/
def isFence (line : List Char) : Bool := fence.toList.isPrefixOf line

def Free (lines : List (List Char)) : Prop := ∀ line ∈ lines, isFence line = false

instance (lines : List (List Char)) : Decidable (Free lines) :=
  List.decidableBAll (fun line => isFence line = false) lines

/-- No line but the first of a text is a fence. -/
def Calm (ends : Char → Bool) (cs : List Char) : Prop := Free (splitWhere ends cs).tail

instance (ends : Char → Bool) (cs : List Char) : Decidable (Calm ends cs) :=
  inferInstanceAs (Decidable (Free (splitWhere ends cs).tail))

variable {ends : Char → Bool} {cs ds : List Char}

theorem free_append {as bs : List (List Char)} : Free (as ++ bs) ↔ Free as ∧ Free bs :=
  List.forall_mem_append

theorem isFence_iff {line : List Char} :
    isFence line = true ↔ ∃ rest, line = '\x60' :: '\x60' :: '\x60' :: rest := by
  have start : fence.toList = ['\x60', '\x60', '\x60'] := by decide
  rw [isFence, start, List.isPrefixOf_iff_prefix]
  exact exists_congr fun rest => eq_comm

theorem isFence_append_right {first : List Char} (other : first.head? ≠ some '\x60')
    (last : List Char) : isFence (last ++ first) = isFence last := by
  rw [Bool.eq_iff_iff, isFence_iff, isFence_iff]
  rcases first with _ | ⟨d, first⟩
  · rw [List.append_nil]
  · have different : d ≠ '\x60' := fun same => other (congrArg some same)
    rcases last with _ | ⟨a, _ | ⟨b, _ | ⟨c, last⟩⟩⟩ <;> simp [different]

/-- Nor does it if the line does not end with a tick, unless it is a fence itself. -/
theorem isFence_append_left {last first : List Char} (other : last.getLast? ≠ some '\x60')
    (no_fence : isFence first = false) : isFence (last ++ first) = isFence last := by
  rcases last with _ | ⟨a, last⟩
  · exact no_fence
  rw [Bool.eq_iff_iff, isFence_iff, isFence_iff]
  rcases last with _ | ⟨b, _ | ⟨c, last⟩⟩
  · have different : a ≠ '\x60' := fun same => other (congrArg some same)
    simp [different]
  · have different : b ≠ '\x60' := fun same => other (congrArg some same)
    simp [different]
  · simp

theorem head?_ne_of_start {c : Char} (start : ds <+: cs) (other : cs.head? ≠ some c) :
    ds.head? ≠ some c := by
  obtain ⟨rest, rfl⟩ := start
  rcases ds with _ | ⟨d, ds⟩
  · nofun
  · exact other

theorem free_iff_calm (other : cs.head? ≠ some '\x60') :
    Free (splitWhere ends cs) ↔ Calm ends cs := by
  obtain ⟨first, after, split⟩ := List.exists_cons_of_ne_nil (splitWhere_ne_nil ends cs)
  have opening : isFence first = false :=
    isFence_append_right (head?_ne_of_start (start_of_splitWhere split) other) []
  rw [Calm, split]
  exact List.forall_mem_cons.trans (and_iff_right opening)

theorem calm_of_oneLine (oneLine : OneLine ends cs) : Calm ends cs := by
  rw [Calm, splitWhere_of_none oneLine]
  exact fun line inside => absurd inside List.not_mem_nil

theorem calm_glued {last first : List Char} {before after : List (List Char)}
    (h : splitWhere ends cs = before ++ [last]) (h' : splitWhere ends ds = first :: after)
    (same : isFence (last ++ first) = isFence last) :
    Calm ends (cs ++ ds) ↔ Calm ends cs ∧ Calm ends ds := by
  rw [Calm, Calm, Calm, splitWhere_glued h h', h, h']
  rcases before with _ | ⟨x, before⟩
  · simp [Free]
  · simp only [List.cons_append, List.tail_cons, free_append]
    simp [Free, same, and_assoc]

theorem calm_append (other : ds.head? ≠ some '\x60') :
    Calm ends (cs ++ ds) ↔ Calm ends cs ∧ Calm ends ds := by
  obtain ⟨first, after, split⟩ := List.exists_cons_of_ne_nil (splitWhere_ne_nil ends ds)
  obtain ⟨before, last, split'⟩ := splitWhere_concat ends cs
  exact calm_glued split' split
    (isFence_append_right (head?_ne_of_start (start_of_splitWhere split) other) last)

theorem calm_after (oneLine : OneLine ends cs) : Calm ends (cs ++ ds) ↔ Calm ends ds := by
  obtain ⟨first, after, split⟩ := List.exists_cons_of_ne_nil (splitWhere_ne_nil ends ds)
  have whole : splitWhere ends cs = [] ++ [cs] := splitWhere_of_none oneLine
  rw [Calm, Calm, splitWhere_glued whole split, split]
  rfl

/-- A text between ticks begins no line with them, unless the text ends with one. -/
theorem calm_ticked (lineEnds : LineEnds ends) (other : cs.getLast? ≠ some '\x60') :
    Calm ends ('\x60' :: (cs ++ ['\x60'])) ↔ Calm ends cs := by
  have tick : OneLine ends ['\x60'] := lineEnds.oneLine (by decide)
  have single : splitWhere ends ['\x60'] = ['\x60'] :: [] := splitWhere_of_none tick
  obtain ⟨before, last, split⟩ := splitWhere_concat ends cs
  have no_tick : last.getLast? ≠ some '\x60' :=
    fun at_end => other (getLast?_of_splitWhere split at_end)
  have opened : Calm ends ('\x60' :: (cs ++ ['\x60'])) ↔ Calm ends (cs ++ ['\x60']) :=
    calm_after tick
  rw [opened, calm_glued split single (isFence_append_left no_tick (by decide))]
  exact and_iff_left (calm_of_oneLine tick)

end Calm

section Front

variable {ends : Char → Bool}

theorem lines_line (lineEnds : LineEnds ends) (text rest : String) :
    splitWhere ends (line text ++ rest).toList =
      splitWhere ends text.toList ++ splitWhere ends rest.toList := by
  rw [← splitWhere_parted lineEnds.newline]
  simp [line]

variable (ends) in
/-- A text of whole lines, and what has to be the case for none of them to be a fence. -/
def FreeIff (text : String) (holds : Prop) : Prop :=
  ∀ rest : String, Free (splitWhere ends (text ++ rest).toList) ↔
    holds ∧ Free (splitWhere ends rest.toList)

theorem FreeIff.append {a b : String} {P Q : Prop} (h : FreeIff ends a P) (h' : FreeIff ends b Q) :
    FreeIff ends (a ++ b) (P ∧ Q) := by
  intro rest
  rw [String.append_assoc, h, h', and_assoc]

theorem FreeIff.of_iff {text : String} {P Q : Prop} (h : FreeIff ends text P) (same : P ↔ Q) :
    FreeIff ends text Q :=
  fun rest => (h rest).trans (and_congr_left' same)

theorem FreeIff.append_true {a b : String} (h : FreeIff ends a True) (h' : FreeIff ends b True) :
    FreeIff ends (a ++ b) True :=
  (h.append h').of_iff and_self_iff

theorem FreeIff.of_line (lineEnds : LineEnds ends) {text : String} {P : Prop}
    (h : FreeIff ends (line text) P) : Free (splitWhere ends text.toList) ↔ P := by
  have nothing : Free (splitWhere ends "".toList) := List.forall_mem_singleton.mpr (by decide)
  have alone := h ""
  rwa [lines_line lineEnds, free_append, and_iff_left nothing, and_iff_left nothing] at alone

theorem FreeIff.join {α : Type} {f : α → String} {P : α → Prop} {l : List α}
    (h : ∀ x ∈ l, FreeIff ends (f x) (P x)) :
    FreeIff ends (String.join (l.map f)) (∀ x ∈ l, P x) := by
  induction l with
  | nil => exact fun rest => by simp
  | cons x l ih =>
    obtain ⟨first, others⟩ := List.forall_mem_cons.mp h
    intro rest
    rw [List.map_cons, String.join_cons, first.append (ih others), List.forall_mem_cons]

theorem freeIff_line (lineEnds : LineEnds ends) {text : String}
    (other : text.toList.head? ≠ some '\x60') : FreeIff ends (line text) (Calm ends text.toList) := by
  intro rest
  rw [lines_line lineEnds, free_append, free_iff_calm other]

theorem calm_rowLine (lineEnds : LineEnds ends) (contents : List (List Char)) :
    Calm ends (rowLine contents) ↔ ∀ cs ∈ contents, Calm ends cs := by
  have opening : OneLine ends ['|'] := lineEnds.oneLine (by decide)
  have space : OneLine ends [' '] := lineEnds.oneLine (by decide)
  have closing : OneLine ends [' ', '|'] := lineEnds.oneLine (by decide)
  have body : Calm ends (contents.flatMap fun cs => ' ' :: (cs ++ [' ', '|'])) ↔
      ∀ cs ∈ contents, Calm ends cs := by
    induction contents with
    | nil => exact iff_of_true (calm_of_oneLine nofun) nofun
    | cons cs contents ih =>
      generalize others : contents.flatMap (fun cs => ' ' :: (cs ++ [' ', '|'])) = rest at ih
      have cell : ' ' :: (cs ++ [' ', '|']) ++ rest = [' '] ++ (cs ++ ([' ', '|'] ++ rest)) := by simp
      rw [List.flatMap_cons, others, cell, calm_after space, calm_append (by simp),
        calm_after closing, ih, List.forall_mem_cons]
  exact (calm_after opening).trans body

theorem freeIff_tableRow (lineEnds : LineEnds ends) (first : String) (others : List String) :
    FreeIff ends (tableRow (first :: others)) (∀ text ∈ first :: others, Calm ends text.toList) := by
  intro rest
  have text : (tableRow (first :: others) ++ rest).toList =
      rowLine ((first :: others).map String.toList) ++ '\n' :: rest.toList := by
    rw [String.toList_append, toList_tableRow, List.append_assoc, List.singleton_append]
  rw [text, splitWhere_parted lineEnds.newline, free_append, free_iff_calm (by simp [rowLine]),
    calm_rowLine lineEnds, List.forall_mem_map]

theorem freeIff_words (lineEnds : LineEnds ends) {text : String} (ascii : Ascii text.toList)
    (other : text.toList.head? ≠ some '\x60') : FreeIff ends (line text) True :=
  (freeIff_line lineEnds other).of_iff
    (iff_true_intro (calm_of_oneLine (lineEnds.oneLine ascii)))

theorem freeIff_shortRow (lineEnds : LineEnds ends) {first : String} {others : List String}
    (h : ∀ text ∈ first :: others, OneLine ends text.toList) :
    FreeIff ends (tableRow (first :: others)) True :=
  (freeIff_tableRow lineEnds first others).of_iff
    (iff_true_intro fun text inside => calm_of_oneLine (h text inside))

theorem oneLine_append {a b : String} (h : OneLine ends a.toList) (h' : OneLine ends b.toList) :
    OneLine ends (a ++ b).toList := by
  rw [String.toList_append]
  exact List.forall_mem_append.mpr ⟨h, h'⟩

theorem oneLine_int (lineEnds : LineEnds ends) (i : Int) : OneLine ends (toString i).toList :=
  lineEnds.oneLine (simple_int i).ascii

theorem freeIff_factsTable (lineEnds : LineEnds ends) {s : Summary}
    (runId : OneLine ends s.runId.toList) (timestamp : OneLine ends s.timestamp.toList) :
    FreeIff ends s.factsTable True := by
  have words : ∀ {text : String}, Ascii text.toList → OneLine ends text.toList := lineEnds.oneLine
  have row : ∀ {name text : String}, Ascii name.toList → OneLine ends text.toList →
      FreeIff ends (tableRow [name, text]) True := by
    intro name text ascii oneLine
    refine freeIff_shortRow lineEnds (List.forall_mem_cons.mpr ⟨words ascii, ?_⟩)
    exact List.forall_mem_singleton.mpr oneLine
  have status : OneLine ends (if s.success then "Succeeded" else "Failed").toList := by
    cases s.success
    · exact words (by decide)
    · exact words (by decide)
  have ran := oneLine_append (oneLine_append (oneLine_int lineEnds s.stepsRun)
    (words (by decide : Ascii " / ".toList))) (oneLine_int lineEnds s.totalSteps)
  have duration := oneLine_append (oneLine_int lineEnds s.durationMs)
    (words (by decide : Ascii "ms".toList))
  have quoted : OneLine ends (code s.runId).toList :=
    oneLine_append (oneLine_append (words (by decide)) runId) (words (by decide))
  unfold factsTable
  apply FreeIff.append_true _ (row (by decide) timestamp)
  apply FreeIff.append_true _ (row (by decide) (oneLine_int lineEnds _))
  apply FreeIff.append_true _ (row (by decide) duration)
  apply FreeIff.append_true _ (row (by decide) ran)
  apply FreeIff.append_true _ (row (by decide) status)
  apply FreeIff.append_true _ (row (by decide) quoted)
  exact (row (by decide) (words (by decide))).append_true
    (freeIff_words lineEnds (by decide) (by decide))

theorem calm_code (lineEnds : LineEnds ends) {text : String}
    (other : text.toList.getLast? ≠ some '\x60') :
    Calm ends (code text).toList ↔ Calm ends text.toList := by
  rw [toList_code, calm_ticked lineEnds other]

theorem freeIff_stepRow (lineEnds : LineEnds ends) {row : SummaryRow}
    (other : row.command.toList.getLast? ≠ some '\x60') :
    FreeIff ends (stepRow row) (Calm ends row.name.toList ∧ Calm ends row.command.toList) := by
  have simple : ∀ {text : String}, Simple text.toList →
      (Calm ends text.toList ↔ True) :=
    fun h => iff_true_intro (calm_of_oneLine (lineEnds.oneLine h.ascii))
  have cells : FreeIff ends (stepRow row) (∀ text ∈ [toString row.index, row.name,
      code row.command, exitText row.exitCode, durationText row.durationMs,
      statusText row.success], Calm ends text.toList) := freeIff_tableRow lineEnds _ _
  apply cells.of_iff
  simp only [List.forall_mem_cons, simple (simple_int _), simple (simple_exitText _),
    simple (simple_durationText _), simple (simple_statusText _), calm_code lineEnds other]
  simp

theorem freeIff_stepsTable (lineEnds : LineEnds ends) {s : Summary}
    (ticks : ∀ row ∈ s.steps, row.command.toList.getLast? ≠ some '\x60') :
    FreeIff ends s.stepsTable
      (∀ row ∈ s.steps, Calm ends row.name.toList ∧ Calm ends row.command.toList) := by
  have ascii : ∀ text ∈ ["#", "Step", "Command", "Exit code", "Duration", "Status"],
      Ascii text.toList := by decide
  have head := freeIff_shortRow lineEnds fun text inside => lineEnds.oneLine (ascii text inside)
  have separator : FreeIff ends separator True := freeIff_words lineEnds (by decide) (by decide)
  have rows := FreeIff.join fun row inside => freeIff_stepRow lineEnds (ticks row inside)
  exact ((head.append_true separator).append rows).of_iff (Iff.of_eq (true_and _))

theorem calm_intercalate (lineEnds : LineEnds ends) (names : List String) :
    Calm ends (", ".intercalate names).toList ↔ ∀ name ∈ names, Calm ends name.toList := by
  have comma : OneLine ends [',', ' '] := lineEnds.oneLine (by decide)
  induction names with
  | nil => exact iff_of_true (calm_of_oneLine nofun) nofun
  | cons name names ih =>
    cases names with
    | nil => simp [String.intercalate_singleton]
    | cons next names =>
      have text : (", ".intercalate (name :: next :: names)).toList =
          name.toList ++ ([',', ' '] ++ (", ".intercalate (next :: names)).toList) := by
        simp [String.intercalate_cons_cons]
      rw [text, calm_append (by simp), calm_after comma, List.forall_mem_cons]
      exact and_congr_right' ih

theorem freeIff_notRunSection (lineEnds : LineEnds ends) (s : Summary) :
    FreeIff ends s.notRunSection (∀ name ∈ s.notRun, Calm ends name.toList) := by
  unfold notRunSection
  split
  · rename_i none
    rw [List.isEmpty_iff.mp none]
    exact fun rest => by simp
  · have words : OneLine ends "Not run: ".toList := lineEnds.oneLine (by decide)
    have names : FreeIff ends (line ("Not run: " ++ ", ".intercalate s.notRun))
        (Calm ends ("Not run: " ++ ", ".intercalate s.notRun).toList) :=
      freeIff_line lineEnds (by simp)
    rw [String.toList_append, calm_after words, calm_intercalate lineEnds] at names
    have blank : FreeIff ends (line "") True := freeIff_words lineEnds (by decide) (by decide)
    exact (blank.append names).of_iff (Iff.of_eq (true_and _))

def front (s : Summary) : String :=
  line ("# Pipeline report: " ++ s.pipelineName) ++ "\n" ++ s.factsTable ++ "\n" ++
    line "## Steps" ++ "\n" ++ s.stepsTable ++ "\n" ++ s.notRunSection

theorem free_front (lineEnds : LineEnds ends) {s : Summary}
    (runId : OneLine ends s.runId.toList) (timestamp : OneLine ends s.timestamp.toList)
    (ticks : ∀ row ∈ s.steps, row.command.toList.getLast? ≠ some '\x60') :
    Free (splitWhere ends (front s).toList) ↔ Calm ends s.pipelineName.toList ∧
      (∀ row ∈ s.steps, Calm ends row.name.toList ∧ Calm ends row.command.toList) ∧
      ∀ name ∈ s.notRun, Calm ends name.toList := by
  have words : OneLine ends "# Pipeline report: ".toList := lineEnds.oneLine (by decide)
  have title : FreeIff ends (line ("# Pipeline report: " ++ s.pipelineName))
      (Calm ends ("# Pipeline report: " ++ s.pipelineName).toList) :=
    freeIff_line lineEnds (by simp)
  rw [String.toList_append, calm_after words] at title
  have blank : FreeIff ends (line "") True := freeIff_words lineEnds (by decide) (by decide)
  have heading : FreeIff ends (line "## Steps") True :=
    freeIff_words lineEnds (by decide) (by decide)
  have facts := freeIff_factsTable lineEnds runId timestamp
  have above := (((title.append blank).append facts).append blank).append heading
  have whole : FreeIff ends (line (front s)) _ :=
    ((((above.append blank).append (freeIff_stepsTable lineEnds ticks)).append blank).append
      (freeIff_notRunSection lineEnds s)).append blank
  exact (whole.of_line lineEnds).trans (by simp only [and_true, and_assoc])

end Front

section Blocks

variable {ends : Char → Bool}

theorem lines_fenced (lineEnds : LineEnds ends) (text rest : String) :
    splitWhere ends (fenced text ++ rest).toList =
      fence.toList :: (splitWhere ends text.toList ++
        fence.toList :: splitWhere ends rest.toList) := by
  have own : splitWhere ends fence.toList = [fence.toList] :=
    splitWhere_of_none (lineEnds.oneLine (by decide))
  rw [fenced, String.append_assoc, String.append_assoc, lines_line lineEnds, lines_line lineEnds,
    lines_line lineEnds, own]
  rfl

/-- The lines of a report above the fences around a failure: those before it, and its heading. -/
def aboveFailure (ends : Char → Bool) (s : Summary) : List (List Char) :=
  splitWhere ends (front s).toList ++ [[], "## Failure".toList, []]

def aboveOutput : List (List Char) := [[], [], "### Output of the failing step".toList, []]

theorem lines_passed (lineEnds : LineEnds ends) {s : Summary} (passed : given s.error = none) :
    splitWhere ends s.markdown.toList = splitWhere ends (front s).toList ++ [[]] := by
  have text : s.markdown = line (front s) ++ "" := by
    show line (front s) ++ s.failureSection = _
    rw [failureSection, passed]
  rw [text, lines_line lineEnds]
  rfl

theorem lines_failed (lineEnds : LineEnds ends) {s : Summary} {error : String}
    (failed : given s.error = some error) :
    splitWhere ends s.markdown.toList = aboveFailure ends s ++ fence.toList ::
      (splitWhere ends error.toList ++ fence.toList ::
        splitWhere ends (s.outputSection ++ "\n").toList) := by
  have heading : splitWhere ends "## Failure".toList = ["## Failure".toList] :=
    splitWhere_of_none (lineEnds.oneLine (by decide))
  have text : s.markdown = line (front s) ++ (line "" ++ (line "## Failure" ++ (line "" ++
      (fenced error ++ (s.outputSection ++ "\n"))))) := by
    show line (front s) ++ s.failureSection = _
    rw [failureSection, failed]
    simp only [String.append_assoc]
    rfl
  rw [text, lines_line lineEnds, lines_line lineEnds, lines_line lineEnds, lines_line lineEnds,
    lines_fenced lineEnds, heading, aboveFailure]
  simp [splitWhere]

theorem lines_unheard (lineEnds : LineEnds ends) {s : Summary}
    (unheard : given s.failureOutput = none) :
    splitWhere ends (s.outputSection ++ "\n").toList = [[], []] := by
  have text : s.outputSection ++ "\n" = line "" ++ "" := by
    rw [outputSection, unheard]
    rfl
  rw [text, lines_line lineEnds]
  rfl

theorem lines_heard (lineEnds : LineEnds ends) {s : Summary} {output : String}
    (heard : given s.failureOutput = some output) :
    splitWhere ends (s.outputSection ++ "\n").toList = aboveOutput ++ fence.toList ::
      (splitWhere ends output.toList ++ fence.toList :: [[], []]) := by
  have heading : splitWhere ends "### Output of the failing step".toList =
      ["### Output of the failing step".toList] :=
    splitWhere_of_none (lineEnds.oneLine (by decide))
  have text : s.outputSection ++ "\n" = line "" ++ (line "" ++
      (line "### Output of the failing step" ++ (line "" ++ (fenced output ++ (line "" ++ ""))))) := by
    rw [outputSection, heard]
    simp only [String.append_assoc]
    rfl
  rw [text, lines_line lineEnds, lines_line lineEnds, lines_line lineEnds, lines_line lineEnds,
    lines_fenced lineEnds, lines_line lineEnds, heading]
  simp [splitWhere, aboveOutput]

end Blocks

section Claim

open Course

/-- The only fences among the lines of a report are its own. There are none if the run passed; if it
failed there are two around what is said of the failure, and two more around what the failing step
wrote if that was captured. -/
inductive Framed (ends : Char → Bool) (r : Report) (lines : List (List Char)) :
    Option String → Prop where
  | passed {captured : Option String} (success : r.success = true) (free : Free lines) :
      Framed ends r lines captured
  | failed {cause : Failure} {above below : List (List Char)} (unsuccessful : r.success = false)
      (failure : r.failure = some cause)
      (parts : lines = above ++ fence.toList ::
        (splitWhere ends cause.message.toList ++ fence.toList :: below))
      (free : Free above ∧ Free (splitWhere ends cause.message.toList) ∧ Free below) :
      Framed ends r lines none
  | heard {cause : Failure} {output : String} {above between below : List (List Char)}
      (unsuccessful : r.success = false) (failure : r.failure = some cause)
      (parts : lines = above ++ fence.toList ::
        (splitWhere ends cause.message.toList ++ fence.toList :: (between ++ fence.toList ::
          (splitWhere ends output.toList ++ fence.toList :: below))))
      (free : Free above ∧ Free (splitWhere ends cause.message.toList) ∧ Free between ∧
        Free (splitWhere ends output.toList) ∧ Free below) :
      Framed ends r lines (some output)

/-- No line but the first of anything that is told of a run is a fence. -/
structure Quiet (ends : Char → Bool) (p : Pipeline) (r : Report) (captured : Option String) :
    Prop where
  name : Calm ends p.name.toList
  steps : ∀ s ∈ p.steps, Calm ends s.name.toList
  commands : ∀ s ∈ p.steps.take r.stepResults.length, Calm ends (CommandLine.join s.command).toList
  failure : ∀ cause, r.failure = some cause → Calm ends cause.message.toList
  output : ∀ output, captured = some output → Calm ends output.toList

theorem free_iff_count {lines : List (List Char)} : Free lines ↔ lines.countP isFence = 0 := by
  simp [Free, List.countP_eq_zero]

section Told

variable {ε : Type} {p : Pipeline} {runId timestamp : String} {replies : List (Reply ε)}
  {r : Report} {ends : Char → Bool}

theorem free_front_iff (coherent : Coherent p runId replies r) (lineEnds : LineEnds ends)
    (oneLine : OneLine ends runId.toList) (now : OneLine ends timestamp.toList) :
    Free (splitWhere ends (front (r.summary p timestamp)).toList) ↔ Calm ends p.name.toList ∧
      (∀ s ∈ p.steps, Calm ends s.name.toList) ∧
      ∀ s ∈ p.steps.take r.stepResults.length,
        Calm ends (CommandLine.join s.command).toList := by
  obtain ⟨name, id⟩ := coherent.names
  let s := r.summary p timestamp
  have ticks : ∀ row ∈ s.steps, row.command.toList.getLast? ≠ some '\x60' :=
    List.forall_mem_map.mpr fun e _ => CommandLine.getLast?_join (by decide) (by decide) e.command
  have rows : (∀ row ∈ s.steps, Calm ends row.name.toList ∧ Calm ends row.command.toList) ↔
      ∀ step ∈ p.steps.take r.stepResults.length,
        Calm ends step.name.toList ∧ Calm ends (CommandLine.join step.command).toList := by
    rw [← forall_results_iff coherent fun name command =>
      Calm ends name.toList ∧ Calm ends (CommandLine.join command).toList]
    exact List.forall_mem_map
  have others : (∀ name ∈ s.notRun, Calm ends name.toList) ↔
      ∀ step ∈ p.steps.drop r.stepResults.length, Calm ends step.name.toList := List.forall_mem_map
  have all : (∀ step ∈ p.steps, Calm ends step.name.toList) ↔
      (∀ step ∈ p.steps.take r.stepResults.length, Calm ends step.name.toList) ∧
        ∀ step ∈ p.steps.drop r.stepResults.length, Calm ends step.name.toList := by
    rw [← List.forall_mem_append, List.take_append_drop]
  have runId' : OneLine ends s.runId.toList := by
    rw [show s.runId = runId from id]
    exact oneLine
  rw [free_front lineEnds runId' now ticks, rows, others, all, show s.pipelineName = p.name from name,
    forall₂_and]
  exact and_congr_right' ⟨fun ⟨⟨names, commands⟩, rest⟩ => ⟨⟨names, rest⟩, commands⟩,
    fun ⟨⟨names, rest⟩, commands⟩ => ⟨⟨names, commands⟩, rest⟩⟩

def Opens (text : String) : Prop := ∃ c, text.toList.head? = some c ∧ c ≠ '\x60'

theorem Opens.append {a : String} (h : Opens a) (b : String) : Opens (a ++ b) := by
  obtain ⟨c, start, other⟩ := h
  refine ⟨c, ?_, other⟩
  rw [String.toList_append, List.head?_append, start]
  rfl

theorem Opens.head?_ne {text : String} (h : Opens text) : text.toList.head? ≠ some '\x60' := by
  obtain ⟨c, start, other⟩ := h
  rw [start]
  exact fun same => other (Option.some.inj same)

theorem Opens.given {text : String} (h : Opens text) : given (some text) = some text := by
  obtain ⟨c, start, -⟩ := h
  have filled : text ≠ "" := by
    rintro rfl
    cases start
  simp [Summary.given, filled]

theorem opens_message (cause : Failure) : Opens cause.message := by
  have step : Opens "Step " := ⟨'S', rfl, by decide⟩
  have command : Opens "Command" := ⟨'C', rfl, by decide⟩
  cases cause with
  | exited index argv exitCode =>
    exact ((((step.append _).append _).append _).append _).append _
  | unstartable index argv reason =>
    refine Opens.append (Opens.append (Opens.append (Opens.append ?_ _) _) _) _
    cases index with
    | none => exact command
    | some i => exact step.append _

theorem opens_intercalate {sep part : String} (h : Opens part) (parts : List String) :
    Opens (sep.intercalate (part :: parts)) := by
  cases parts with
  | nil => rwa [String.intercalate_singleton]
  | cons next parts =>
    rw [String.intercalate_cons_cons]
    exact (h.append _).append _

theorem opens_format (stdout stderr : Option String) : Opens (Output.format stdout stderr none) := by
  have headed : ∀ (heading : String) (text : Option String), Opens heading →
      ∀ part ∈ Output.headed heading text, Opens part := by
    intro heading text opens part inside
    unfold Output.headed at inside
    split at inside
    · split at inside
      · cases inside
      · cases List.mem_singleton.mp inside
        exact (opens.append _).append _
    · cases inside
  unfold Output.format
  cases shown : Output.parts stdout stderr none with
  | nil => exact ⟨'(', rfl, by decide⟩
  | cons part parts =>
    have inside : part ∈ Output.parts stdout stderr none := shown ▸ List.mem_cons_self
    rcases List.mem_append.mp inside with out | err
    · exact opens_intercalate (headed "STDOUT" stdout ⟨'S', rfl, by decide⟩ part out) parts
    · exact opens_intercalate (headed "STDERR" stderr ⟨'S', rfl, by decide⟩ part err) parts

theorem framed_failed_iff {cause : Failure} (unsuccessful : r.success = false)
    (failure : r.failure = some cause) (above below : List (List Char)) :
    Framed ends r (above ++ fence.toList ::
        (splitWhere ends cause.message.toList ++ fence.toList :: below)) none ↔
      Free above ∧ Free (splitWhere ends cause.message.toList) ∧ Free below := by
  have own : isFence fence.toList = true := by decide
  constructor
  · intro framed
    cases framed with
    | passed success => cases success.symm.trans unsuccessful
    | failed _ failure' parts free =>
      cases failure.symm.trans failure'
      obtain ⟨free, failing, rest⟩ := free
      have count := congrArg (List.countP isFence) parts
      simp only [List.countP_append, List.countP_cons, own, free_iff_count.mp free,
        free_iff_count.mp failing, free_iff_count.mp rest] at count
      exact ⟨free_iff_count.mpr (by omega), failing, free_iff_count.mpr (by omega)⟩
  · exact .failed unsuccessful failure rfl

theorem framed_heard_iff {cause : Failure} (unsuccessful : r.success = false)
    (failure : r.failure = some cause) (output : String) (above between below : List (List Char)) :
    Framed ends r (above ++ fence.toList ::
        (splitWhere ends cause.message.toList ++ fence.toList :: (between ++ fence.toList ::
          (splitWhere ends output.toList ++ fence.toList :: below)))) (some output) ↔
      Free above ∧ Free (splitWhere ends cause.message.toList) ∧ Free between ∧
        Free (splitWhere ends output.toList) ∧ Free below := by
  have own : isFence fence.toList = true := by decide
  constructor
  · intro framed
    cases framed with
    | passed success => cases success.symm.trans unsuccessful
    | heard _ failure' parts free =>
      cases failure.symm.trans failure'
      obtain ⟨free, failing, middle, heard, rest⟩ := free
      have count := congrArg (List.countP isFence) parts
      simp only [List.countP_append, List.countP_cons, own, free_iff_count.mp free,
        free_iff_count.mp failing, free_iff_count.mp middle, free_iff_count.mp heard,
        free_iff_count.mp rest] at count
      exact ⟨free_iff_count.mpr (by omega), failing, free_iff_count.mpr (by omega), heard,
        free_iff_count.mpr (by omega)⟩
  · exact .heard unsuccessful failure rfl

theorem framed_passed_iff (success : r.success = true) (lines : List (List Char))
    (captured : Option String) : Framed ends r lines captured ↔ Free lines := by
  constructor
  · intro framed
    cases framed with
    | passed _ free => exact free
    | failed unsuccessful => cases success.symm.trans unsuccessful
    | heard unsuccessful => cases success.symm.trans unsuccessful
  · exact .passed success

theorem quiet_of_success (failure : r.failure = none) : Quiet ends p r none ↔
    Calm ends p.name.toList ∧ (∀ s ∈ p.steps, Calm ends s.name.toList) ∧
      ∀ s ∈ p.steps.take r.stepResults.length,
        Calm ends (CommandLine.join s.command).toList := by
  constructor
  · exact fun quiet => ⟨quiet.name, quiet.steps, quiet.commands⟩
  · rintro ⟨name, steps, commands⟩
    refine ⟨name, steps, commands, ?_, nofun⟩
    intro cause failed
    cases failure.symm.trans failed

theorem quiet_of_failure {cause : Failure} (failure : r.failure = some cause)
    (captured : Option String) : Quiet ends p r captured ↔
      (Calm ends p.name.toList ∧ (∀ s ∈ p.steps, Calm ends s.name.toList) ∧
        ∀ s ∈ p.steps.take r.stepResults.length,
          Calm ends (CommandLine.join s.command).toList) ∧
      Calm ends cause.message.toList ∧ ∀ output, captured = some output → Calm ends output.toList := by
  constructor
  · exact fun quiet => ⟨⟨quiet.name, quiet.steps, quiet.commands⟩, quiet.failure cause failure,
      quiet.output⟩
  · rintro ⟨⟨name, steps, commands⟩, failing, output⟩
    refine ⟨name, steps, commands, ?_, output⟩
    intro cause' failed
    cases failure.symm.trans failed
    exact failing

end Told

/-- The fences of a report are the only lines of it that look like one, if and only if no line but the
first of a name, a command line, the failure or the output does. Output is shown if the step that
failed wrote some and that was captured. -/
theorem report_framed_iff {σ ε : Type} (ex : Executor σ ε) (hooks : Hooks σ ε) (base : Context)
    (p : Pipeline) (runId timestamp : String) (w : σ) (r : Report)
    (reported : (p.run ex hooks base runId w).outcome = .ok r) (ends : Char → Bool)
    (lineEnds : LineEnds ends) (oneLine : OneLine ends runId.toList)
    (now : OneLine ends timestamp.toList) :
    let s := r.summary p timestamp
    (∃ replies, Answers ex hooks (p.baseContext base) 0 p.steps w replies ∧
      ∀ text, s.failureOutput = some text ↔ r.success = false ∧
        ∃ c, replies.getLast? = some (.completed c) ∧ c.Wrote ∧
          text = Output.format c.stdout c.stderr none) ∧
    (Framed ends r (splitWhere ends (s.render .default).toList) s.failureOutput ↔
      Quiet ends p r s.failureOutput) := by
  intro s
  obtain ⟨replies, answers, coherent⟩ := coherent_of_reported reported
  refine ⟨⟨replies, answers, output_of_coherent coherent timestamp⟩, ?_⟩
  have front := free_front_iff coherent lineEnds oneLine now
  have told : s.error = r.failure.map Failure.message := rfl
  have nothing : Free [[], []] := by decide
  show Framed ends r (splitWhere ends s.markdown.toList) _ ↔ _
  rcases coherent.ended with success | ⟨i, step, cause, failed⟩
  · have passed : given s.error = none := by
      rw [told, success.failure]
      rfl
    have silent : s.failureOutput = none := by
      rw [Option.eq_none_iff_forall_ne_some]
      intro text output
      cases success.success.symm.trans ((output_of_coherent coherent timestamp text).mp output).1
    rw [lines_passed lineEnds passed, framed_passed_iff success.success, free_append, front, silent,
      quiet_of_success success.failure]
    exact and_iff_left (by decide)
  · have error : given s.error = some cause.message := by
      rw [told, failed.failure]
      exact (opens_message cause).given
    -- Neither the message nor the output begins with a tick, so their first lines are no fences.
    have above : Free (aboveFailure ends s) ↔ _ :=
      (free_append.trans (and_iff_left (by decide))).trans front
    have failing : Free (splitWhere ends cause.message.toList) ↔ Calm ends cause.message.toList :=
      free_iff_calm (opens_message cause).head?_ne
    rw [lines_failed lineEnds error, quiet_of_failure failed.failure]
    cases output : s.failureOutput with
    | none =>
      have unheard : given s.failureOutput = none := by
        rw [output]
        rfl
      rw [lines_unheard lineEnds unheard, framed_failed_iff failed.success failed.failure, above,
        failing]
      simp [nothing]
    | some text =>
      obtain ⟨-, c, -, -, format⟩ := (output_of_coherent coherent timestamp text).mp output
      have opens : Opens text := format ▸ opens_format c.stdout c.stderr
      have heard : given s.failureOutput = some text := by
        rw [output]
        exact opens.given
      rw [lines_heard lineEnds heard, framed_heard_iff failed.success failed.failure, above, failing,
        free_iff_calm opens.head?_ne]
      simp [nothing, show Free aboveOutput by decide]

/-- What a failing step wrote stands between fences of its own, but not if that is a fence itself. -/
theorem report_framed_echo :
    (∃ r, ((echo "a").run listed .silent source "run"
        [.completed ⟨1, some "ok", none, 0⟩]).outcome = .ok r ∧
      (r.summary (echo "a") "now").failureOutput = some "STDOUT:\nok" ∧
      Framed isLineEnd r
        (splitWhere isLineEnd ((r.summary (echo "a") "now").render .default).toList)
        (r.summary (echo "a") "now").failureOutput) ∧
    ∃ r, ((echo "a").run listed .silent source "run"
        [.completed ⟨1, some "\x60\x60\x60", none, 0⟩]).outcome = .ok r ∧
      (r.summary (echo "a") "now").failureOutput = some "STDOUT:\n\x60\x60\x60" ∧
      ¬ Framed isLineEnd r
        (splitWhere isLineEnd ((r.summary (echo "a") "now").render .default).toList)
        (r.summary (echo "a") "now").failureOutput := by
  constructor
  · obtain ⟨-, framed⟩ := report_framed_iff listed .silent source (echo "a") "run" "now"
      [.completed ⟨1, some "ok", none, 0⟩] _ rfl _ .displayed (by decide) (by decide)
    refine ⟨_, rfl, by decide, framed.mpr ?_⟩
    refine ⟨by decide, List.forall_mem_singleton.mpr (by decide),
      List.forall_mem_singleton.mpr (by decide), ?_, ?_⟩
    · rintro cause ⟨⟩
      decide +kernel
    · rintro output ⟨⟩
      decide +kernel
  · obtain ⟨-, framed⟩ := report_framed_iff listed .silent source (echo "a") "run" "now"
      [.completed ⟨1, some "\x60\x60\x60", none, 0⟩] _ rfl _ .displayed (by decide) (by decide)
    refine ⟨_, rfl, by decide, fun alone => ?_⟩
    exact absurd ((framed.mp alone).output "STDOUT:\n\x60\x60\x60" (by decide)) (by decide)

end Claim

end Summary

end Stepwise
