import Stepwise.Text.Lone
import Stepwise.Yaml.Token.Name

/-!
Reading scalars: blocks of lines, quoted texts and plain ones. Lines are folded where they are not
kept, and what stands at their ends is dropped or kept as the kind of scalar says.
-/
namespace Stepwise.Yaml

namespace Scan

def blockBreaks (column : Nat) : Nat → Scan (List Char)
  | 0 => pure []
  | fuel + 1 => do
    let c ← cursor
    let spaces := (c.rest.takeWhile (· = ' ')).length
    skip (min spaces (column - c.column))
    if isBreak (← peek) then
      let broken ← lineBreak
      return broken ++ (← blockBreaks column fuel)
    else return []

/-- Empty lines before a block scalar, with the furthest column that they reach. -/
def blockIndentation (furthest : Nat) : Nat → Scan (List Char × Nat)
  | 0 => pure ([], furthest)
  | fuel + 1 => do
    let c ← peek
    if c = ' ' then
      skip 1
      blockIndentation (max furthest (← cursor).column) fuel
    else if isBreak c then
      let broken ← lineBreak
      let (more, furthest) ← blockIndentation furthest fuel
      return (broken ++ more, furthest)
    else return ([], furthest)

inductive Chomping where
  | strip
  | clip
  | keep
  deriving DecidableEq

def chompingSign : Scan (Option Chomping) := do
  match ← peek with
  | '+' => skip 1; return some .keep
  | '-' => skip 1; return some .strip
  | _ => return none

def indentDigit : Scan (Option Nat) := do
  let c ← peek
  if c.isDigit then
    require (c ≠ '0')
    skip 1
    return some (c.toNat - '0'.toNat)
  else return none

def blockHeader : Scan (Chomping × Option Nat) := do
  let before ← chompingSign
  let digit ← indentDigit
  let sign ← match before with
    | some s => pure (some s)
    | none => if digit.isSome then chompingSign else pure none
  require (isSpaceOrEnd (← peek))
  return (sign.getD .clip, digit)

/-- The lines of a block scalar from one that is indented to a column. Given are the breaks before
it; the result has the text, the last line break, and the breaks after that. -/
def blockLines (folded : Bool) (column : Nat) (breaks : List Char) :
    Nat → Scan (List Char × List Char × List Char)
  | 0 => pure ([], [], breaks)
  | fuel + 1 => do
    if (← cursor).column = column && (← peek) ≠ atEnd then
      let startsBlank := isIndentChar (← peek)
      let line ← takeWhile (!isLineEnd ·)
      let broken ← lineBreak
      let after ← blockBreaks column (← rounds)
      let c ← cursor
      if c.column = column && c.peek ≠ atEnd then
        let joint :=
          if folded && broken = ['\n'] && !startsBlank && !isIndentChar c.peek then
            if after.isEmpty then [' '] else []
          else broken
        let (text, last, final) ← blockLines folded column after fuel
        return (breaks ++ line ++ joint ++ text, last, final)
      else return (breaks ++ line, broken, after)
    else return ([], [], breaks)

def blockScalar (folded : Bool) : Scan Token := do
  skip 1
  let (chomping, digit) ← blockHeader
  skipRestOfLine
  let least := (max ((← get).indent + 1) 1).toNat
  let (breaks, column) ← match digit with
    | none =>
      let (breaks, furthest) ← blockIndentation 0 (← rounds)
      pure (breaks, max least furthest)
    | some n =>
      let column := least + n - 1
      pure (← blockBreaks column (← rounds), column)
  let (text, last, final) ← blockLines folded column breaks (← rounds)
  let ending := match chomping with
    | .strip => []
    | .clip => last
    | .keep => last ++ final
  return .scalar (String.ofList (text ++ ending)) false

def escapeLetters : List (Char × Char) :=
  [('0', '\x00'), ('a', '\x07'), ('b', '\x08'), ('t', '\t'), ('\t', '\t'), ('n', '\n'),
    ('v', '\x0b'), ('f', '\x0c'), ('r', '\r'), ('e', '\x1b'), (' ', ' '), ('\x22', '\x22'),
    ('\\', '\\'), ('/', '/'), ('N', '\u0085'), ('_', '\u00a0'), ('L', '\u2028'),
    ('P', '\u2029')]

def escapeSizes : List (Char × Nat) := [('x', 2), ('u', 4), ('U', 8)]

def quotedBreaks : Nat → Scan (List Char)
  | 0 => pure []
  | fuel + 1 => do
    require (!(← cursor).atDocumentMark)
    discard (takeWhile isIndentChar)
    if isBreak (← peek) then
      let broken ← lineBreak
      return broken ++ (← quotedBreaks fuel)
    else return []

def escape : Scan (List Char) := do
  let c ← peek
  match escapeLetters.lookup c, escapeSizes.lookup c with
  | some d, _ =>
    skip 1
    return [d]
  | none, some size =>
    skip 1
    let ds := (← cursor).rest.take size
    require (ds.length = size && ds.all isHex)
    let n := hexValue ds
    if h : codeBound ≤ n then throw (.excess (.character ⟨n, h⟩))
    skip size
    return [Text.ofCode n]
  | none, none =>
    require (isBreak c)
    discard lineBreak
    quotedBreaks (← rounds)

def quotedWord (double : Bool) : Nat → Scan (List Char)
  | 0 => pure []
  | fuel + 1 => do
    let plain ← takeWhile fun c =>
      !(isGap c || c = '\x27' || c = '\x22' || c = '\\')
    let c ← peek
    let more ←
      if !double && c = '\x27' && (← peekAt 1) = '\x27' then
        skip 2
        pure (some ['\x27'])
      else if (double && c = '\x27') || (!double && (c = '\x22' || c = '\\')) then
        skip 1
        pure (some [c])
      else if double && c = '\\' then
        skip 1
        some <$> escape
      else pure none
    match more with
    | some cs => return plain ++ cs ++ (← quotedWord double fuel)
    | none => return plain

def quotedBlanks : Scan (List Char) := do
  let blanks ← takeWhile isIndentChar
  let c ← peek
  require (c ≠ atEnd)
  if isBreak c then
    let broken ← lineBreak
    let breaks ← quotedBreaks (← rounds)
    if broken ≠ ['\n'] then return broken ++ breaks
    else return if breaks.isEmpty then [' '] else breaks
  else return blanks

def quotedWords (double : Bool) (quote : Char) : Nat → Scan (List Char)
  | 0 => pure []
  | fuel + 1 => do
    if (← peek) = quote then return []
    let blanks ← quotedBlanks
    let word ← quotedWord double (← rounds)
    return blanks ++ word ++ (← quotedWords double quote fuel)

def quotedScalar (double : Bool) : Scan Token := do
  let quote ← peek
  skip 1
  let first ← quotedWord double (← rounds)
  let more ← quotedWords double quote (← rounds)
  skip 1
  return .scalar (String.ofList (first ++ more)) false

/-- Whether a plain scalar ends before a character, given the one after that. -/
def endsPlain (flow : Bool) (c next : Char) : Bool :=
  isGap c || (c = ':' && (isGap next || (flow && (next = ',' || isFlowBracket next)))) ||
    (flow && (c = ',' || c = '?' || isFlowBracket c))

def plainLength (flow : Bool) : List Char → Nat
  | [] => 0
  | c :: rest => if endsPlain flow c (rest.headD atEnd) then 0 else plainLength flow rest + 1

/-- Spaces and line breaks up to a mark between documents or to the next word; nothing is given in
the first case. -/
def plainBreaks : Nat → Scan (Option (List Char))
  | 0 => pure none
  | fuel + 1 => do
    let c ← peek
    if c = ' ' then
      skip 1
      plainBreaks fuel
    else if isBreak c then
      let broken ← lineBreak
      if (← cursor).atDocumentMark then return none
      return (← plainBreaks fuel).map (broken ++ ·)
    else return some []

def plainBlanks : Scan (List Char) := do
  let blanks ← takeWhile (· = ' ')
  if isBreak (← peek) then
    let broken ← lineBreak
    setAllowKey true
    if (← cursor).atDocumentMark then return []
    match ← plainBreaks (← rounds) with
    | none => return []
    | some breaks =>
      if broken ≠ ['\n'] then return broken ++ breaks
      else return if breaks.isEmpty then [' '] else breaks
  else return blanks

def plainWords (flow : Bool) (column : Int) (blanks : List Char) : Nat → Scan (List Char)
  | 0 => pure []
  | fuel + 1 => do
    let c ← cursor
    if c.peek = '#' then return []
    let size := plainLength flow c.rest
    if size = 0 then return []
    setAllowKey false
    let word := c.rest.take size
    skip size
    let after ← plainBlanks
    let c ← cursor
    if after.isEmpty || c.peek = '#' || (!flow && (c.column : Int) < column) then
      return blanks ++ word
    return blanks ++ word ++ (← plainWords flow column after fuel)

def plainScalar : Scan Token := do
  let s ← get
  let cs ← plainWords (s.flowLevel ≠ 0) (s.indent + 1) [] (← rounds)
  return .scalar (String.ofList cs) true

end Scan

end Stepwise.Yaml
