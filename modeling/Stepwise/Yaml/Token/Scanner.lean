import Stepwise.Yaml.Token.Basic
import Stepwise.Yaml.Token.Cursor

/-!
The reader of tokens. It moves along the text; indentation opens and closes block collections. A key
without a mark of its own is only known to be one when its colon is met, so the reader keeps the
places where one may have begun.
-/
namespace Stepwise.Yaml

inductive Unread where
  | malformed
  | excess (what : Excess)

structure PossibleKey where
  /-- The number of tokens before it. -/
  position : Nat
  required : Bool
  index : Nat
  line : Nat
  column : Nat

structure Scanner where
  cursor : Cursor
  tokens : List Token
  count : Nat
  /-- How many of the tokens could be given away before the last one was begun. -/
  settled : Nat
  /-- Where keys turned out to begin, and whether a block mapping begins with them. -/
  keys : List (Nat × Bool)
  flowLevel : Nat
  indent : Int
  indents : List Int
  allowKey : Bool
  possible : List (Nat × PossibleKey)

abbrev Scan := ExceptT Unread (StateM Scanner)

namespace Scan

variable {α : Type}

def malformed : Scan α := throw .malformed

def require (condition : Bool) : Scan Unit := if condition then pure () else malformed

def cursor : Scan Cursor := return (← get).cursor

def moveTo (c : Cursor) : Scan Unit := modify fun s => { s with cursor := c }

def peek : Scan Char := return (← cursor).peek

def peekAt (k : Nat) : Scan Char := return (← cursor).peekAt k

def skip (n : Nat) : Scan Unit := do moveTo (Cursor.advance n (← cursor))

def reading (f : Cursor → α × Cursor) : Scan α := do
  let (a, c) := f (← cursor)
  moveTo c
  return a

def takeWhile (p : Char → Bool) : Scan (List Char) := reading (Cursor.takeWhile p)

def lineBreak : Scan (List Char) := reading Cursor.lineBreak

def rounds : Scan Nat := return (← cursor).rest.length + 2

def emit (t : Token) : Scan Unit :=
  modify fun s => { s with tokens := t :: s.tokens, count := s.count + 1 }

def inFlow : Scan Bool := return (← get).flowLevel ≠ 0

def setAllowKey (b : Bool) : Scan Unit := modify fun s => { s with allowKey := b }

def keyReach : Nat := 1024

def dropStaleKeys : Scan Unit := do
  let s ← get
  let stale := fun (k : PossibleKey) =>
    k.line ≠ s.cursor.line || keyReach < s.cursor.index - k.index
  require (!s.possible.any fun p => stale p.2 && p.2.required)
  set { s with possible := s.possible.filter fun p => !stale p.2 }

/-- Marks the tokens so far as settled, up to the first before which a mark of a key may still be
put. -/
def settle : Scan Unit := modify fun s =>
  { s with settled := s.possible.foldl (fun n p => min n p.2.position) s.count }

def forgetKey : Scan Unit := do
  let s ← get
  require (!(s.possible.lookup s.flowLevel).any PossibleKey.required)
  set { s with possible := s.possible.filter fun p => p.1 ≠ s.flowLevel }

def saveKey : Scan Unit := do
  if (← get).allowKey then
    forgetKey
    let s ← get
    let c := s.cursor
    let required := s.flowLevel = 0 && s.indent = c.column
    set { s with possible :=
      (s.flowLevel, ⟨s.count, required, c.index, c.line, c.column⟩) :: s.possible }

def unwind (column : Int) : Scan Unit := do
  let s ← get
  if s.flowLevel = 0 then
    let deeper := (s.indent :: s.indents).takeWhile (column < ·)
    let kept := (s.indent :: s.indents).dropWhile (column < ·)
    let closing := deeper.length
    set { s with
      indent := kept.headD (-1), indents := kept.tail
      tokens := List.replicate closing Token.blockEnd ++ s.tokens, count := s.count + closing }

def indentTo (column : Int) : Scan Bool := do
  let s ← get
  if s.indent < column then
    set { s with indent := column, indents := s.indent :: s.indents }
    return true
  else return false

def skipToToken : Nat → Scan Unit
  | 0 => pure ()
  | fuel + 1 => do
    let c := (← cursor).dropWhile (· = ' ') |>.skipComment
    let (broken, c') := c.lineBreak
    moveTo c'
    if !broken.isEmpty then
      if !(← inFlow) then setAllowKey true
      skipToToken fuel

def skipRestOfLine : Scan Unit := do
  let c := (← cursor).dropWhile (· = ' ') |>.skipComment
  require (isLineEnd c.peek)
  moveTo c.lineBreak.2

end Scan

end Stepwise.Yaml
