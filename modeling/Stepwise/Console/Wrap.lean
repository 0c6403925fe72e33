import Stepwise.Console.Grapheme
import Stepwise.Text.Blank
import Stepwise.Text.Lines

/-!
Laying text out in lines of a given width. A line is broken before a word that does not fit on it; a
word that fits on no line is folded where a line is full, or left for cutting. Blanks beyond the
width are dropped from the end of a line, and tabs lead to the next multiple of eight cells.
-/
namespace Stepwise.Console

inductive Overflow where
  | fold
  | ellipsis
  deriving DecidableEq, Repr

inductive Justify where
  | natural
  | left
  | center
  | right
  deriving DecidableEq, Repr

/-- The words of a text, each with the blanks after it and the first with those before it. Blanks
alone are no word. -/
def wordsOf : Nat → List Char → List (List Char)
  | 0, _ => []
  | fuel + 1, cs =>
    let before := cs.takeWhile Text.isBlank
    let rest := cs.drop before.length
    let word := rest.takeWhile (!Text.isBlank ·)
    if word.isEmpty then []
    else
      let rest := rest.drop word.length
      let after := rest.takeWhile Text.isBlank
      (before ++ word ++ after) :: wordsOf fuel (rest.drop after.length)

/-- The lines that words make, and the cells used on the last one. A line is a list of characters,
and the last line comes first. -/
structure Filled where
  lines : List (List Char)
  used : Nat

def Filled.append (f : Filled) (word : List Char) : Filled :=
  match f.lines with
  | [] => ⟨[word], f.used + cells word⟩
  | line :: lines => ⟨(line ++ word) :: lines, f.used + cells word⟩

def Filled.newLine (f : Filled) (word : List Char) : Filled :=
  if f.lines.isEmpty then ⟨[word], cells word⟩ else ⟨word :: f.lines, cells word⟩

def Filled.add (overflow : Overflow) (width : Nat) (f : Filled) (word : List Char) : Filled :=
  let size := cells (Text.trimRight word)
  if f.used + size ≤ width then f.append word
  else if width < size then
    match overflow with
    | .fold =>
      (chop width word).foldl (fun (acc : Filled × Bool) piece =>
        if acc.2 && f.lines.isEmpty then (⟨[piece], cells piece⟩, false)
        else if piece.isEmpty then acc
        else (acc.1.newLine piece, false)) (f, true) |>.1
    | .ellipsis => f.newLine word
  else if f.used ≠ 0 then f.newLine word
  else f.append word

def fillLines (overflow : Overflow) (width : Nat) (cs : List Char) : List (List Char) :=
  let all := wordsOf (cs.length + 1) cs
  let filled := all.foldl (Filled.add overflow width) ⟨[], 0⟩
  let left := cs.drop all.flatten.length
  match filled.lines with
  | [] => [left]
  | line :: lines => ((line ++ left) :: lines).reverse

def tabSize : Nat := 8

/-- Texts between tabs, each with its tab as spaces up to the next tab stop. Each is measured alone,
with one space, after some cells. -/
def joinTabs (used : Nat) : List (List Char) → List Char
  | [] => []
  | [part] => part
  | part :: parts =>
    let part := part ++ [' ']
    let next := used + cells part
    let more := (tabSize - next % tabSize) % tabSize
    part ++ List.replicate more ' ' ++ joinTabs (next + more) parts

def expandTabs (line : List Char) : List Char := joinTabs 0 (Text.splitAt '\t' line)

def dropExcess (width : Nat) (line : List Char) : List Char :=
  let blanks := line.length - (Text.trimRight line).length
  line.take (line.length - min blanks (line.length - width))

def cut (overflow : Overflow) (width : Nat) (line : List Char) : List Char :=
  if cells line ≤ width then line
  else match overflow with
    | .fold => exactly width line
    | .ellipsis => exactly (width - 1) line ++ ['…']

def justifyLine (overflow : Overflow) (justify : Justify) (width : Nat) (line : List Char) :
    List Char :=
  match justify with
  | .natural => line
  | .left => if cells line ≤ width then fill width line else cut overflow width line
  | .center =>
    let line := cut overflow width (Text.trimRight line)
    fill width (List.replicate ((width - cells line) / 2) ' ' ++ line)
  | .right =>
    let line := cut overflow width (Text.trimRight line)
    List.replicate (width - cells line) ' ' ++ line

def wrap (overflow : Overflow) (justify : Justify) (width : Nat) (cs : List Char) :
    List (List Char) :=
  (Text.splitAt '\n' cs).flatMap fun line =>
    let line := expandTabs line
    (fillLines overflow width line).map fun l =>
      cut overflow width (justifyLine overflow justify width (dropExcess width l))

end Stepwise.Console
