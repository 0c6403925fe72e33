import Stepwise.CommandLine
import Stepwise.Step.Build
import Stepwise.Proofs.Definition.Reading

/-! A displayed command line can be pasted. The quoter and the reader are different algorithms: what
ties them is that the reader, in the mode in which a word of the quoter leaves it, has that word in
front of what it reads from the rest. -/
namespace Stepwise

namespace CommandLine

theorem onto_onto (a b : List Char) (words : List (List Char)) :
    onto a (onto b words) = onto (a ++ b) words := by
  cases words with
  | nil => rfl
  | cons word words => simp [onto]

theorem map_onto (a b : List Char) (x : Except SplitError (List (List Char))) :
    onto a <$> onto b <$> x = onto (a ++ b) <$> x := by
  cases x with
  | error e => rfl
  | ok words => exact congrArg Except.ok (onto_onto a b words)

/-- Inside an argument the reader always has a first word, so that no characters in front of it
change nothing. -/
theorem map_onto_nil_read (mode : Mode) (inside : mode ≠ .blank) (cs : List Char) :
    onto [] <$> read mode cs = read mode cs := by
  induction cs generalizing mode with
  | nil =>
    cases mode with
    | blank => exact absurd rfl inside
    | bare | escaped | single | double | doubleEscaped => rfl
  | cons c cs ih =>
    have front : ∀ (a : List Char) (m : Mode),
        onto [] <$> onto a <$> read m cs = onto a <$> read m cs :=
      fun a m => map_onto [] a (read m cs)
    have ends : onto [] <$> (([] :: ·) <$> read .blank cs) = ([] :: ·) <$> read .blank cs := by
      cases read .blank cs with
      | error e => rfl
      | ok words => rfl
    cases mode with
    | blank => exact absurd rfl inside
    | bare =>
      simp only [read]
      repeat' split
      · exact ends
      · exact ih .single (by decide)
      · exact ih .double (by decide)
      · exact ih .escaped (by decide)
      · exact front [c] .bare
    | escaped => exact front [c] .bare
    | single =>
      simp only [read]
      split
      · exact ih .bare (by decide)
      · exact front [c] .single
    | double =>
      simp only [read]
      repeat' split
      · exact ih .bare (by decide)
      · exact ih .doubleEscaped (by decide)
      · exact front [c] .double
    | doubleEscaped =>
      simp only [read]
      split
      · exact front [c] .double
      · exact front ['\\', c] .double

theorem isSafe_plain {c : Char} (h : isSafe c) :
    isSpace c = false ∧ c ≠ '\x27' ∧ c ≠ '\x22' ∧ c ≠ '\\' := by
  have apart : ∀ d : Char, isSafe d = false → c ≠ d := by
    intro d special eq
    rw [eq, special] at h
    cases h
  have spaces : isSpace c = false := by
    have blank := apart ' ' (by decide)
    have tab := apart '\t' (by decide)
    have back := apart '\r' (by decide)
    have line := apart '\n' (by decide)
    simp [isSpace, blank, tab, back, line]
  exact ⟨spaces, apart _ (by decide), apart _ (by decide), apart _ (by decide)⟩

theorem read_bare_safe {cs : List Char} (safe : cs.all isSafe) (rest : List Char) :
    read .bare (cs ++ rest) = onto cs <$> read .bare rest := by
  induction cs with
  | nil => exact (map_onto_nil_read .bare (by decide) rest).symm
  | cons c cs ih =>
    obtain ⟨first, others⟩ : isSafe c ∧ cs.all isSafe := by simpa using safe
    obtain ⟨space, single, double, escape⟩ := isSafe_plain first
    have taken : read .bare (c :: (cs ++ rest)) = onto [c] <$> read .bare (cs ++ rest) := by
      simp [read, space, single, double, escape]
    rw [List.cons_append, taken, ih others, map_onto]
    rfl

/-- Between single quotes, the quoted characters are read as what they stand for. A single quote
leaves the quotes, stands between double ones and comes back. -/
theorem read_single_quoted (cs rest : List Char) :
    read .single (cs.flatMap quoteChar ++ '\x27' :: rest) = onto cs <$> read .bare rest := by
  induction cs with
  | nil => exact (map_onto_nil_read .bare (by decide) rest).symm
  | cons c cs ih =>
    have taken : read .single (quoteChar c ++ (cs.flatMap quoteChar ++ '\x27' :: rest)) =
        onto [c] <$> read .single (cs.flatMap quoteChar ++ '\x27' :: rest) := by
      by_cases h : c = '\x27'
      · -- The five characters for a single quote: out of the quotes, into double ones and back.
        subst h
        rfl
      · simp [quoteChar, read, h]
    rw [List.flatMap_cons, List.append_assoc, taken, ih, map_onto]
    rfl

theorem read_quoteChars (cs rest : List Char) :
    read .blank (quoteChars cs ++ rest) = onto cs <$> read .bare rest := by
  unfold quoteChars
  split
  · rename_i plain
    cases cs with
    | nil => cases plain
    | cons c cs =>
      obtain ⟨first, others⟩ : isSafe c ∧ cs.all isSafe := by simpa using plain
      obtain ⟨space, single, double, escape⟩ := isSafe_plain first
      have taken : read .blank (c :: (cs ++ rest)) = onto [c] <$> read .bare (cs ++ rest) := by
        simp [read, space, single, double, escape]
      rw [List.cons_append, taken, read_bare_safe others, map_onto]
      rfl
  · have opened : ∀ more, read .blank ('\x27' :: more) = read .single more := fun _ => rfl
    rw [List.cons_append, opened, List.append_assoc]
    exact read_single_quoted cs rest

theorem toList_quote (arg : String) : (quote arg).toList = quoteChars arg.toList :=
  String.toList_ofList

theorem getLast?_quote {c : Char} (special : isSafe c = false) (other : c ≠ '\x27') (arg : String) :
    (quote arg).toList.getLast? ≠ some c := by
  rw [toList_quote]
  unfold quoteChars
  split
  · rename_i bare
    obtain ⟨-, safe⟩ := (Bool.and_eq_true _ _).mp bare
    intro last
    have member := List.all_eq_true.mp safe _ (List.mem_of_getLast? last)
    rw [special] at member
    cases member
  · rw [← List.cons_append, List.getLast?_concat]
    exact fun last => other (Option.some.inj last).symm

theorem read_join (args : List String) :
    read .blank (join args).toList = .ok (args.map String.toList) := by
  unfold join
  induction args with
  | nil => rfl
  | cons arg rest ih =>
    cases rest with
    | nil =>
      have word := read_quoteChars arg.toList []
      rw [List.append_nil] at word
      rw [List.map_singleton, String.intercalate_singleton, toList_quote, word]
      simp [read, onto, Functor.map, Except.map]
    | cons next rest =>
      -- The reader stands inside the word until the space of the line ends it.
      have space : ∀ more, read .bare (' ' :: more) = ([] :: ·) <$> read .blank more := fun _ => rfl
      have line : (" ".intercalate ((arg :: next :: rest).map quote)).toList =
          quoteChars arg.toList ++ ' ' :: (" ".intercalate ((next :: rest).map quote)).toList := by
        simp [String.intercalate_cons_cons, toList_quote]
      rw [line, read_quoteChars, space, ih]
      simp [onto, Functor.map, Except.map]

theorem getLast?_join {c : Char} (special : isSafe c = false) (other : c ≠ '\x27')
    (args : List String) : (join args).toList.getLast? ≠ some c := by
  induction args with
  | nil => nofun
  | cons arg rest ih =>
    cases rest with
    | nil =>
      rw [join, List.map_singleton, String.intercalate_singleton]
      exact getLast?_quote special other arg
    | cons next rest =>
      have line : (join (arg :: next :: rest)).toList =
          (quote arg).toList ++ ' ' :: (join (next :: rest)).toList := by
        simp [join, String.intercalate_cons_cons]
      have filled : (join (next :: rest)).toList ≠ [] := by
        intro none
        have words := read_join (next :: rest)
        rw [none] at words
        cases words
      rwa [line, List.getLast?_append_cons, List.getLast?_cons_of_ne_nil filled]

theorem split_join (args : List String) : split (join args) = .ok args := by
  unfold split
  rw [read_join]
  simp [Functor.map, Except.map, Function.comp_def]

theorem join_injective : Function.Injective join := by
  intro a b same
  have read := split_join a
  rw [same, split_join] at read
  exact (Except.ok.inj read).symm

end CommandLine

theorem Step.ofLine_join (s : Step) (description : String) (env : Env) (cwd : Option Directory) :
    Step.ofLine (CommandLine.join s.command) description env cwd =
      .ok { s with description := description, env := env, cwd := cwd } := by
  unfold Step.ofLine Step.ofCommand
  rw [CommandLine.split_join]
  exact dif_pos s.runnable

namespace Definition

theorem readCommand_join {command : List String} (h : Runnable command) :
    readCommand (.text (CommandLine.join command)) = .ok ⟨command, h⟩ := by
  simp only [readCommand, CommandLine.split_join, toCommand]
  exact dif_pos h

theorem readStep_join {command : List String} (h : Runnable command) :
    readStep (.map [(.text "run", .text (CommandLine.join command))]) =
      .ok ⟨command, none, "", ∅, none, h, nofun⟩ := by
  show readStepFields [(.text "run", .text (CommandLine.join command))] = _
  unfold readStepFields
  rw [readField_given rfl, readField_absent rfl, readField_absent rfl, readField_absent rfl,
    readField_absent rfl, readCommand_join h]
  rfl

end Definition

/-- The line that displays a step's command, which is also the name of the step if it has no
description, gives the step back with exactly that command, as a line or as a definition. More than
that, every list of arguments is read back from its line, so that no two lists share one. -/
theorem join_pasteable (s : Step) :
    (∀ description env cwd, Step.ofLine (CommandLine.join s.command) description env cwd =
      .ok { s with description := description, env := env, cwd := cwd }) ∧
    (∃ d, Definition.readStep (.map [(.text "run", .text (CommandLine.join s.command))]) = .ok d ∧
      d.run = s.command) ∧
    ({ s with description := "" } : Step).name = CommandLine.join s.command ∧
    (∀ args, CommandLine.split (CommandLine.join args) = .ok args) ∧
    Function.Injective CommandLine.join :=
  ⟨s.ofLine_join, ⟨_, Definition.readStep_join s.runnable, rfl⟩, rfl, CommandLine.split_join,
    CommandLine.join_injective⟩

end Stepwise
