import Stepwise.Yaml.Char

/-!
A place in a YAML text, with a count of lines and columns, and the ways to go on from it.
-/
namespace Stepwise.Yaml

structure Cursor where
  rest : List Char
  index : Nat
  line : Nat
  column : Nat

namespace Cursor

def peekAt (c : Cursor) (k : Nat) : Char := (c.rest.drop k).headD atEnd

def peek (c : Cursor) : Char := c.rest.headD atEnd

def next (c : Cursor) : Cursor :=
  match c.rest with
  | [] => c
  | ch :: rest =>
    if isBreak ch && !(ch = '\r' && rest.head? = some '\n') then
      ⟨rest, c.index + 1, c.line + 1, 0⟩
    else ⟨rest, c.index + 1, c.line, if ch = '\ufeff' then c.column else c.column + 1⟩

def advance : Nat → Cursor → Cursor
  | 0, c => c
  | n + 1, c => advance n c.next

def takeWhile (p : Char → Bool) (c : Cursor) : List Char × Cursor :=
  let taken := c.rest.takeWhile p
  (taken, advance taken.length c)

def dropWhile (p : Char → Bool) (c : Cursor) : Cursor := (c.takeWhile p).2

def atMark (mark : Char) (c : Cursor) : Bool :=
  c.peek = mark && c.peekAt 1 = mark && c.peekAt 2 = mark && isGap (c.peekAt 3)

def atDocumentMark (c : Cursor) : Bool := c.atMark '-' || c.atMark '.'

def lineBreak (c : Cursor) : List Char × Cursor :=
  match c.peek with
  | '\r' => if c.peekAt 1 = '\n' then (['\n'], advance 2 c) else (['\n'], c.next)
  | '\n' | '\u0085' => (['\n'], c.next)
  | '\u2028' => (['\u2028'], c.next)
  | '\u2029' => (['\u2029'], c.next)
  | _ => ([], c)

def skipComment (c : Cursor) : Cursor :=
  if c.peek = '#' then c.dropWhile (!isLineEnd ·) else c

end Cursor

end Stepwise.Yaml
