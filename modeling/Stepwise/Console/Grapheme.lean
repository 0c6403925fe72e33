import Stepwise.Console.Cells

/-!
Graphemes: the parts of a text that no cut may separate, each with its cells. A grapheme is a
character that takes cells, with the marks after it and with whatever joiners bind to it. Texts are
cut to a width, filled up to one and chopped into pieces of one between graphemes; where the edge
would run through a grapheme, a space stands for its half.
-/
namespace Stepwise.Console

structure Grapheme where
  chars : List Char
  cells : Nat
  deriving DecidableEq, Repr

namespace Grapheme

def extend (g : Grapheme) (cs : List Char) : Grapheme := { g with chars := g.chars ++ cs }

/-- The graphemes of a text, after some of them, the last one first, and after a character that a
selector may still make wide. What combines with something stands alone if there is nothing. -/
def after (done : List Grapheme) (last : Option Char) : List Char → List Grapheme
  | [] => done.reverse
  | c :: cs =>
    let n := if c = joiner || c = selector then 0 else cellsOf c
    if n ≠ 0 then after (⟨[c], n⟩ :: done) (some c) cs
    else match done with
      | [] => after [⟨[c], 0⟩] last cs
      | g :: rest =>
        if c = joiner then
          match cs with
          | [] => (g.extend [c] :: rest).reverse
          | d :: cs => after (g.extend [c, d] :: rest) last cs
        else if c = selector && last.any widens then
          after ({ g.extend [c] with cells := g.cells + 1 } :: rest) none cs
        else after (g.extend [c] :: rest) last cs

def ofText (cs : List Char) : List Grapheme := after [] none cs

/-- The longest beginning that takes some cells at most, with a space for the half of a grapheme
that is on the edge. -/
def take : Nat → List Grapheme → List Char
  | _, [] => []
  | width, g :: gs =>
    if width = 0 then []
    else if g.cells ≤ width then g.chars ++ take (width - g.cells) gs
    else [' ']

/-- Graphemes in pieces of a width at most, as full as can be. Given is the piece at hand and its
cells. -/
def chopAfter (width : Nat) (piece : List Char) (used : Nat) : List Grapheme → List (List Char)
  | [] => if used = 0 then [] else [piece]
  | g :: gs =>
    if width < used + g.cells then piece :: chopAfter width g.chars g.cells gs
    else chopAfter width (piece ++ g.chars) (used + g.cells) gs

end Grapheme

def chop (width : Nat) (cs : List Char) : List (List Char) :=
  Grapheme.chopAfter width [] 0 (Grapheme.ofText cs)

def fill (width : Nat) (cs : List Char) : List Char :=
  cs ++ List.replicate (width - cells cs) ' '

def exactly (width : Nat) (cs : List Char) : List Char :=
  if cells cs ≤ width then fill width cs else Grapheme.take width (Grapheme.ofText cs)

def cropParts (width : Nat) : List (List Char) → List (List Char)
  | [] => []
  | part :: parts =>
    if cells part < width then part :: cropParts (width - cells part) parts
    else [exactly width part]

def adjustParts (width : Nat) (parts : List (List Char)) : List (List Char) :=
  let used := total (parts.map cells)
  if used ≤ width then parts ++ [List.replicate (width - used) ' '] else cropParts width parts

end Stepwise.Console
