import Stepwise.Yaml.Token.Scalar

/-!
The tokens of a text in order. A key that had no mark of its own gets one at the end: the tokens are
laid out with marks at the places where keys turned out to begin.
-/
namespace Stepwise.Yaml

namespace Scan

def keyable (read : Scan Token) : Scan Unit := do
  saveKey
  setAllowKey false
  emit (← read)

def marginal (read : Scan Token) : Scan Unit := do
  unwind (-1)
  forgetKey
  setAllowKey false
  emit (← read)

def single (t : Token) : Scan Token := do
  skip 1
  return t

def openFlow (t : Token) : Scan Unit := do
  saveKey
  modify fun s => { s with flowLevel := s.flowLevel + 1, allowKey := true }
  emit (← single t)

def closeFlow (t : Token) : Scan Unit := do
  forgetKey
  require (← inFlow)
  modify fun s => { s with flowLevel := s.flowLevel - 1, allowKey := false }
  emit (← single t)

def flowEntry : Scan Unit := do
  setAllowKey true
  forgetKey
  emit (← single .flowEntry)

def blockEntry : Scan Unit := do
  if !(← inFlow) then
    require (← get).allowKey
    if ← indentTo (← cursor).column then emit .blockSequenceStart
  setAllowKey true
  forgetKey
  emit (← single .blockEntry)

def keyMark : Scan Unit := do
  let flow ← inFlow
  if !flow then
    require (← get).allowKey
    if ← indentTo (← cursor).column then emit .blockMappingStart
  setAllowKey (!flow)
  forgetKey
  emit (← single .key)

def valueMark : Scan Unit := do
  let s ← get
  let flow := s.flowLevel ≠ 0
  match s.possible.lookup s.flowLevel with
  | some k =>
    set { s with possible := s.possible.filter fun p => p.1 ≠ s.flowLevel }
    let opens ← if flow then pure false else indentTo k.column
    modify fun s => { s with keys := (k.position, opens) :: s.keys, allowKey := false }
  | none =>
    if !flow then
      require s.allowKey
      if ← indentTo s.cursor.column then emit .blockMappingStart
    setAllowKey (!flow)
    forgetKey
  emit (← single .value)

def startsPlain (c : Cursor) (flow : Bool) : Bool :=
  let ch := c.peek
  !(isGap ch || isIndicator ch) ||
    (!isGap (c.peekAt 1) && (ch = '-' || (!flow && (ch = '?' || ch = ':'))))

def token : Scan Unit := do
  let c ← cursor
  let flow ← inFlow
  let gapAfter := isGap (c.peekAt 1)
  let margin := c.column = 0
  match c.peek with
  | '%' => if margin then marginal (Token.directive <$> directive) else malformed
  | '[' => openFlow .flowSequenceStart
  | '\x7b' => openFlow .flowMappingStart
  | ']' => closeFlow .flowSequenceEnd
  | '\x7d' => closeFlow .flowMappingEnd
  | ',' => flowEntry
  | '*' => keyable (Token.alias <$> anchorName)
  | '&' => keyable (Token.anchor <$> anchorName)
  | '!' => keyable tagToken
  | '\x27' => keyable (quotedScalar false)
  | '\x22' => keyable (quotedScalar true)
  | ch =>
    if margin && c.atMark '-' then marginal do skip 3; return .documentStart
    else if margin && c.atMark '.' then marginal do skip 3; return .documentEnd
    else if ch = '-' && gapAfter then blockEntry
    else if ch = '?' && (flow || gapAfter) then keyMark
    else if ch = ':' && (flow || gapAfter) then valueMark
    else if (ch = '|' || ch = '>') && !flow then
      setAllowKey true
      forgetKey
      emit (← blockScalar (ch = '>'))
    else if startsPlain c flow then keyable plainScalar
    else malformed

def tokens : Nat → Scan Unit
  | 0 => malformed
  | fuel + 1 => do
    dropStaleKeys
    settle
    skipToToken (← rounds)
    dropStaleKeys
    let c ← cursor
    unwind c.column
    if c.peek = atEnd then
      unwind (-1)
      forgetKey
    else
      token
      tokens fuel

end Scan

def layOut (keys : List (Nat × Bool)) (position : Nat) : List Token → List Token
  | [] => []
  | t :: ts =>
    (match keys.lookup position with
      | some true => [.blockMappingStart, .key]
      | some false => [.key]
      | none => []) ++ t :: layOut keys (position + 1) ts

def Scanner.start (cs : List Char) : Scanner :=
  let cursor : Cursor := ⟨cs, 0, 0, 0⟩
  let cursor := if cursor.peek = '\ufeff' then cursor.next else cursor
  ⟨cursor, [], 0, 0, [], 0, -1, [], true, []⟩

/-- The tokens of a text, if it has any to give. An excess comes after those that were settled when
it was met, so that it is told only if all before it is in order. -/
def Token.scan (cs : List Char) : Option (List Token) :=
  if cs.all isAllowed then
    let (result, s) := ((Scan.tokens (cs.length + 2)).run (Scanner.start cs)).run
    let read := s.tokens.reverse
    match result with
    | .ok _ => some (layOut s.keys 0 read)
    | .error (.excess x) => some (layOut s.keys 0 (read.take s.settled) ++ [.unreadable x])
    | .error .malformed => none
  else none

end Stepwise.Yaml
