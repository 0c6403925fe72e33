import Stepwise.Cli.Display
import Stepwise.Proofs.Console.Printing
import Stepwise.World.Errno

/-! The lines that commands print. Each has tags of its own around texts from outside, and those are
escaped; so whatever the texts are, the line is printed as long as they have octets. -/
namespace Stepwise

def Plain (cs : List Char) : Prop :=
  ∀ c ∈ cs, (Console.Markup.isBracket c = false ∧ c ≠ '\\') ∧ Text.isLone c = false

instance (cs : List Char) : Decidable (Plain cs) :=
  List.decidableBAll
    (fun c => (Console.Markup.isBracket c = false ∧ c ≠ '\\') ∧ Text.isLone c = false) cs

namespace Plain

theorem legible {cs : List Char} (h : Plain cs) : Legible cs := fun c member => (h c member).2

theorem no_opening {cs : List Char} (h : Plain cs) : ∀ c ∈ cs, c ≠ '[' := by
  rintro c member rfl
  cases (h _ member).1.1

theorem append {s t : String} (h : Plain s.toList) (h' : Plain t.toList) :
    Plain (s ++ t).toList := by
  rw [String.toList_append]
  exact List.forall_mem_append.mpr ⟨h, h'⟩

theorem of_digit {c : Char} (h : c.isDigit) :
    (Console.Markup.isBracket c = false ∧ c ≠ '\\') ∧ Text.isLone c = false := by
  have apart : ∀ d : Char, d.isDigit = false → c ≠ d := by
    rintro d other rfl
    rw [other] at h
    cases h
  have opening := apart '[' (by decide)
  have closing := apart ']' (by decide)
  refine ⟨⟨?_, apart '\\' (by decide)⟩, not_isLone_of_isDigit h⟩
  simp [Console.Markup.isBracket, opening, closing]

theorem nat (n : Nat) : Plain (toString n).toList :=
  fun _ member => of_digit (isDigit_of_mem_toString member)

theorem int (i : Int) : Plain (toString i).toList := by
  cases i with
  | ofNat n => exact nat n
  | negSucc n => exact append (by decide : Plain "-".toList) (nat (n + 1))

end Plain

section Texts

theorem Output.legible_format {stdout stderr : Option String}
    (out : ∀ s, stdout = some s → Legible s.toList)
    (err : ∀ s, stderr = some s → Legible s.toList) :
    Legible (Output.format stdout stderr none).toList := by
  have headed : ∀ (heading : String) (text : Option String), Legible heading.toList →
      (∀ s, text = some s → Legible s.toList) →
      ∀ part ∈ Output.headed heading text, Legible part.toList := by
    intro heading text above below part member
    unfold Output.headed at member
    cases text with
    | none => cases member
    | some t =>
      simp only at member
      split at member
      · cases member
      · cases List.mem_singleton.mp member
        exact (above.string_append (by decide)).string_append (below t rfl)
  have parts : ∀ part ∈ Output.parts stdout stderr none, Legible part.toList := by
    intro part member
    rcases List.mem_append.mp member with first | second
    · exact headed "STDOUT" stdout (by decide) out part (by simpa using first)
    · exact headed "STDERR" stderr (by decide) err part second
  unfold Output.format
  simp only
  split
  · decide
  · exact Legible.intercalate (by decide) parts

theorem Path.legible_of_parts {p : Path} (parts : ∀ part ∈ p.parts, Legible part.toList) :
    Legible p.toString.toList := by
  have root : ∀ r : Root, Legible r.text.toList := by
    intro r
    cases r <;> decide
  unfold toString
  split
  · decide
  · exact (root _).string_append (.intercalate (by decide) parts)

theorem Path.legible_part {file part : String} (h : Legible file.toList)
    (member : part ∈ (ofString file).parts) : Legible part.toList := by
  obtain ⟨name, inside, rfl⟩ := List.mem_map.mp (List.mem_filter.mp member).1
  rw [String.toList_ofList]
  exact h.sub (Console.splitWhere_subset inside)

theorem Path.legible_toString {file : String} (h : Legible file.toList) :
    Legible (Path.ofString file).toString.toList :=
  legible_of_parts fun _ member => legible_part h member

theorem Errno.legible_message (e : Errno) (name : String) : Legible (e.message name).toList := by
  have text : Legible e.text.toList := by cases e <;> exact .ofList (by decide)
  exact ((((Legible.string_append (by decide) (legible_nat e.number)).string_append
    (by decide)).string_append text).string_append (by decide)).string_append
      (Text.legible_quoted name)

theorem Text.Utf8.EncodeError.legible_message (e : Text.Utf8.EncodeError) :
    Legible e.message.toList := by
  have place : Legible (toString e.position).toList := legible_nat e.position
  unfold message
  refine (Legible.string_append (by decide) ?_).string_append (by decide)
  split
  · refine ((Legible.string_append (by decide) ?_).string_append (by decide)).string_append place
    rw [String.toList_ofList]
    exact Text.legible_numericEscape _
  · exact ((Legible.string_append (by decide) place).string_append (by decide)).string_append
      (legible_nat _)

theorem legible_of_nameFault? {name : String} {f : Fault} (h : nameFault? name = some f) :
    Legible f.message.toList := by
  unfold nameFault? encodeFault? nulFault? at h
  cases unencodable : Text.Utf8.nameError? name.toList with
  | some e =>
    simp only [unencodable, Option.map_some, Option.orElse_eq_orElse, Option.orElse_some,
      Option.some.injEq] at h
    subst h
    exact e.legible_message
  | none =>
    simp only [unencodable, Option.map_none, Option.orElse_eq_orElse, Option.orElse_none] at h
    split at h
    · cases h
      decide
    · cases h

end Texts

namespace Cli

open Console (printed)
open Console.Markup

section Lines

theorem toList_escape (s : String) : (escape s).toList = escapeChars s.toList :=
  String.toList_ofList

/-- An escaped text is printed between two parts of a line. Given are the tags of the first part,
and the second one does not close what the text opened. -/
theorem printed_escaped {before text after : String} (opened : List (List Char))
    (tags : ∀ rest, liveTags false (before.toList ++ rest) = opened ++ liveTags false rest)
    (unclosing : closesFirst after.toList = false)
    (balances : ∀ odd, balanced [] (opened ++ liveTags odd after.toList))
    (before_legible : Legible before.toList) (text_legible : Legible text.toList)
    (after_legible : Legible after.toList) (width : Nat) :
    ∃ line, printed width (before ++ escape text ++ after) = .ok line := by
  apply Console.printed_of_legible
  · refine (before_legible.string_append ?_).string_append after_legible
    rw [toList_escape]
    exact legible_escapeChars text_legible
  · rw [String.toList_append, String.toList_append, toList_escape, List.append_assoc, tags,
      liveTags_escapeChars unclosing]
    exact balances _

theorem startLine_ok {command : List String} (h : ∀ arg ∈ command, Legible arg.toList)
    (width : Nat) : ∃ line, startLine width command = .ok line := by
  apply printed_escaped ["bold".toList]
  · exact fun rest => rfl
  · rfl
  · intro odd
    cases odd <;> decide
  · decide
  · exact CommandLine.legible_join h
  · decide

theorem failedLine_ok (index : Nat) {name : String} (h : Legible name.toList) (width : Nat) :
    ∃ line, failedLine width index name = .ok line := by
  have line : failedLine width index name =
      printed width
        ("[red]x[/red] step " ++ toString index ++ " (" ++ escape name ++ ") failed") := rfl
  rw [line]
  apply printed_escaped ["red".toList, "/red".toList]
  · intro rest
    have start : ∀ more, liveTags false ("[red]x[/red] step ".toList ++ more) =
        ["red".toList, "/red".toList] ++ liveTags false more := fun more => rfl
    rw [String.toList_append, String.toList_append, List.append_assoc, List.append_assoc, start,
      liveTags_plain fun c member => (Plain.nat index c member).1]
    rfl
  · rfl
  · intro odd
    cases odd <;> decide
  · exact (Legible.string_append (by decide) (legible_nat index)).string_append (by decide)
  · exact h
  · decide

theorem noticeLine_ok {before text : String} (opened : List (List Char))
    (tags : ∀ rest, liveTags false (before.toList ++ rest) = opened ++ liveTags false rest)
    (balances : balanced [] opened) (before_legible : Legible before.toList)
    (text_legible : Legible text.toList) (width : Nat) :
    ∃ line, printed width (before ++ escape text) = .ok line := by
  have whole : before ++ escape text = before ++ escape text ++ "" := (String.append_empty).symm
  rw [whole]
  apply printed_escaped opened tags
  · rfl
  · intro odd
    have none : liveTags odd "".toList = [] := rfl
    rwa [none, List.append_nil]
  · exact before_legible
  · exact text_legible
  · decide

theorem errorLine_ok {message : String} (h : Legible message.toList) (width : Nat) :
    ∃ line, errorLine width message = .ok line :=
  noticeLine_ok ["red".toList, "/red".toList] (fun _ => rfl) (by decide) (by decide) h width

theorem counts_plain (r : Report) (total : Nat) {what : String} (h : Plain what.toList) :
    Plain (counts r total what).toList := by
  have done : Plain ("(" ++ toString r.stepsRun ++ "/" ++ toString total).toList :=
    ((Plain.append (by decide) (.nat r.stepsRun)).append (by decide)).append (.nat total)
  exact (((done.append h).append (by decide)).append (.int r.durationMs)).append (by decide)

theorem summaryLine_ok {before name after numbers : String} (opened closed : List (List Char))
    (tags : ∀ rest, liveTags false (before.toList ++ rest) = opened ++ liveTags false rest)
    (tags' : ∀ odd rest, liveTags odd (after.toList ++ rest) = closed ++ liveTags false rest)
    (unclosing : ∀ rest, closesFirst (after.toList ++ rest) = false)
    (balances : balanced [] (opened ++ closed))
    (before_legible : Legible before.toList) (name_legible : Legible name.toList)
    (after_legible : Legible after.toList) (plain : Plain numbers.toList) (width : Nat) :
    ∃ line, printed width (before ++ escape name ++ after ++ numbers) = .ok line := by
  rw [String.append_assoc]
  apply printed_escaped opened tags
  · rw [String.toList_append]
    exact unclosing _
  · intro odd
    rw [String.toList_append, tags', liveTags_of_no_opening plain.no_opening, List.append_nil]
    exact balances
  · exact before_legible
  · exact name_legible
  · exact after_legible.string_append plain.legible

theorem lastOutput_ok {r : Report}
    (h : ∀ last, r.stepResults.getLast? = some last →
      (∀ s, last.stdout = some s → Legible s.toList) ∧
        ∀ s, last.stderr = some s → Legible s.toList) (width : Nat) :
    ∀ line ∈ lastOutput width r, ∃ text, line = .ok text := by
  intro line member
  unfold lastOutput at member
  split at member
  · rename_i last found
    split at member
    · cases List.mem_singleton.mp member
      obtain ⟨out, err⟩ := h last found
      rw [← String.empty_append (s := escape _)]
      exact noticeLine_ok [] (fun _ => rfl) rfl (by decide) (Output.legible_format out err) width
    · cases member
  · cases member

theorem failureSummary_ok {r : Report} (total : Nat) (name : Legible r.pipelineName.toList)
    (width : Nat) : ∃ text,
    printed width ("[red]Pipeline '" ++ escape r.pipelineName ++ "' failed[/red] " ++
      counts r total " steps succeeded") = .ok text := by
  apply summaryLine_ok ["red".toList] ["/red".toList]
  · exact fun rest => rfl
  · intro odd rest
    cases odd <;> rfl
  · exact fun rest => rfl
  · decide
  · decide
  · exact name
  · decide
  · exact counts_plain r total (by decide)

/-- The summary of a run is printed if the name of the pipeline, the failure and what the failing
step wrote have octets. -/
theorem reportLines_ok {r : Report} (total : Nat) (name : Legible r.pipelineName.toList)
    (failure : ∀ f, r.failure = some f → Legible f.message.toList)
    (output : r.success = false → ∀ last, r.stepResults.getLast? = some last →
      (∀ s, last.stdout = some s → Legible s.toList) ∧
        ∀ s, last.stderr = some s → Legible s.toList) (width : Nat) :
    ∀ line ∈ reportLines width r total, ∃ text, line = .ok text := by
  unfold reportLines
  split
  · rw [List.forall_mem_singleton]
    apply summaryLine_ok ["green".toList] ["/green".toList]
    · exact fun rest => rfl
    · intro odd rest
      cases odd <;> rfl
    · exact fun rest => rfl
    · decide
    · decide
    · exact name
    · decide
    · exact counts_plain r total (by decide)
  · rename_i unsuccessful
    have head := failureSummary_ok total name width
    have error : ∃ text, errorLine width ((r.failure.map Failure.message).getD "None") = .ok text := by
      apply errorLine_ok
      cases known : r.failure with
      | none => decide
      | some f => exact failure f known
    rw [List.forall_mem_append, List.forall_mem_cons, List.forall_mem_singleton]
    exact ⟨⟨head, error⟩, lastOutput_ok (output (by simpa using unsuccessful)) width⟩

theorem printAll_ok {lines : List (Except Fault String)}
    (h : ∀ line ∈ lines, ∃ text, line = .ok text) :
    ∃ text, Console.printAll lines = (text, none) := by
  induction lines with
  | nil => exact ⟨"", rfl⟩
  | cons line lines ih =>
    obtain ⟨⟨first, rfl⟩, others⟩ := List.forall_mem_cons.mp h
    obtain ⟨rest, shown⟩ := ih others
    refine ⟨first ++ rest, ?_⟩
    simp only [Console.printAll, shown]

end Lines

end Cli

end Stepwise
