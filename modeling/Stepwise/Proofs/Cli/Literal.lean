import Stepwise.Proofs.Cli.Lines
import Stepwise.Proofs.CommandLine.RoundTrip
import Stepwise.Proofs.Console.Layout
import Stepwise.Proofs.Console.Shown

/-! What the lines of commands say. The words and tags of a line do not touch the text that is
escaped between them, so that the line says what the text shows; where that is the text itself and
it fits, the line is the words and the text, character by character. -/
namespace Stepwise

namespace Cli

open Console (printed endLines wrap Fits)
open Console.Markup

section Tells

/-- The words, and what the text shows, laid out on lines of a width. -/
def said (width : Nat) (words text : String) : String :=
  endLines (wrap .fold .natural width (words.toList ++ shownText text.toList))

/-- A line says some words and a text. A text that shows itself is said as it is where it fits. -/
structure Tells (width : Nat) (words text line : String) : Prop where
  shown : line = said width words text
  literal : Kept text.toList →
    (∀ l ∈ Text.splitAt '\n' (words ++ text).toList, Fits width l) →
    line = words ++ text ++ "\n"

variable {width : Nat} {markup words text line : String}

theorem tells_said (width : Nat) (words text : String) :
    Tells width words text (said width words text) where
  shown := rfl
  literal kept fits := by
    rw [String.toList_append] at fits
    rw [said, kept.shownText_eq, Console.endLines_wrap fits]
    apply String.toList_inj.mp
    simp

theorem printed_of_render
    (renders : render markup.toList = .ok (words.toList ++ shownText text.toList))
    (width : Nat) : printed width markup = Console.writable (said width words text) := by
  simp only [Console.printed, renders, said, bind, Except.bind]

theorem printed_of_shows (h : Shows [] markup.toList (words.toList ++ shownText text.toList))
    (width : Nat) : printed width markup = Console.writable (said width words text) :=
  printed_of_render (h 0) width

theorem tells_of_writable (told : Console.writable (said width words text) = .ok line) :
    Tells width words text line := by
  unfold Console.writable at told
  split at told
  · cases told
  · cases told
    exact tells_said width words text

theorem notice_tells (legible : Legible markup.toList)
    (tags : balanced [] (liveTags false markup.toList))
    (renders : render markup.toList = .ok words.toList)
    (width : Nat) : ∃ line, printed width markup = .ok line ∧ Tells width words "" line := by
  have none : render markup.toList = .ok (words.toList ++ shownText "".toList) := by
    rw [renders, show shownText "".toList = [] by decide +kernel, List.append_nil]
  obtain ⟨line, told⟩ := Console.printed_of_legible legible tags width
  exact ⟨line, told, tells_of_writable ((printed_of_render none width).symm.trans told)⟩

end Tells

section Lines

variable {width : Nat} {message line : String}

theorem startLine_tells {command : List String} (told : startLine width command = .ok line) :
    Tells width "+ " (CommandLine.join command) line := by
  suffices shows : Shows [] ("[bold]+ " ++ escape (CommandLine.join command) ++ "[/bold]").toList
      ("+ ".toList ++ shownText (CommandLine.join command).toList) from
    tells_of_writable ((printed_of_shows shows width).symm.trans told)
  have text : ("[bold]+ " ++ escape (CommandLine.join command) ++ "[/bold]").toList =
      bracketed ['b', 'o', 'l', 'd'] ++ (['+', ' '] ++
        (escapeChars (CommandLine.join command).toList ++
          (bracketed ['/', 'b', 'o', 'l', 'd'] ++ []))) := by
    rw [String.toList_append, String.toList_append, toList_escape]
    rfl
  have closed : Shows [['b', 'o', 'l', 'd']] (bracketed ['/', 'b', 'o', 'l', 'd'] ++ []) [] :=
    .closing_tag (by decide) rfl (by decide) (.nil [])
  have escaped := Shows.escaped_before (by decide)
    (CommandLine.getLast?_join (by decide) (by decide) command) closed
  rw [List.append_nil (shownText _)] at escaped
  rw [text]
  exact .opening_tag (by decide) (fun _ => nofun) (.words (wording_of_all (by decide)) escaped)

theorem printed_red {before words : String} (word : List Char)
    (red : before.toList = bracketed ['r', 'e', 'd'] ++
      (word ++ (bracketed ['/', 'r', 'e', 'd'] ++ [' '])))
    (spoken : words.toList = word ++ [' ']) (none : nextTag? word = none)
    (plain : word.all fun c => !(isBracket c || c = '\\')) (kept : shownChars word = word) :
    printed width (before ++ escape message) = Console.writable (said width words message) := by
  refine printed_of_shows ?_ width
  have text : (before ++ escape message).toList = bracketed ['r', 'e', 'd'] ++ (word ++
      (bracketed ['/', 'r', 'e', 'd'] ++ ([' '] ++ escapeChars message.toList))) := by
    rw [String.toList_append, toList_escape, red]
    simp only [List.append_assoc]
  have next : nextTag? (word ++
      (bracketed ['/', 'r', 'e', 'd'] ++ ([' '] ++ escapeChars message.toList))) =
      some ⟨word, 0, ['/', 'r', 'e', 'd'], [' '] ++ escapeChars message.toList⟩ := by
    have isBody : isBody ['/', 'r', 'e', 'd'] := by decide
    have tag := nextTag?_run isBody 0 ([' '] ++ escapeChars message.toList)
    rw [List.replicate_zero, List.nil_append] at tag
    rw [nextTag?_append none (.of_plain (no_markup_of_all plain)), tag]
    simp [Found.prepend]
  have told : Shows [] ([' '] ++ escapeChars message.toList) ([' '] ++ shownText message.toList) :=
    .words (wording_of_all (by decide)) (.escaped_end message.toList)
  have closes : close? (Text.trim ['r', 'e', 'd']) [['r', 'e', 'd']] = some [] := by decide
  have closed := Shows.of_closing next rfl rfl closes told
  rw [kept] at closed
  have opening : ∀ raw, nameOf ['r', 'e', 'd'] ≠ '/' :: raw := by
    intro raw same
    cases same
  rw [text, spoken, List.append_assoc]
  exact .opening_tag (by decide) opening closed

theorem errorLine_eq (width : Nat) (message : String) :
    errorLine width message = Console.writable (said width "Error: " message) :=
  printed_red "Error:".toList rfl rfl (by decide) (by decide) (by decide +kernel)

theorem errorLine_tells (told : errorLine width message = .ok line) :
    Tells width "Error: " message line :=
  tells_of_writable ((errorLine_eq width message).symm.trans told)

theorem escaped_tells (told : printed width (escape message) = .ok line) :
    Tells width "" message line := by
  have shows : Shows [] (escape message).toList ("".toList ++ shownText message.toList) := by
    rw [toList_escape]
    exact .escaped_end message.toList
  exact tells_of_writable ((printed_of_shows shows width).symm.trans told)

end Lines

end Cli

end Stepwise
