import Stepwise.Text.Utf8
import Stepwise.Value
import Stepwise.Yaml.Token.Scanner

/-!
Reading names: those of directives, tags, anchors and aliases.
-/
namespace Stepwise.Yaml

namespace Scan

def versionNumber : Scan Nat := do
  let ds ← takeWhile Char.isDigit
  require (!ds.isEmpty)
  if Value.digitLimit < ds.length then throw (.excess (.version ds.length))
  return ds.foldl (fun n d => n * 10 + (d.toNat - '0'.toNat)) 0

def hexValue (ds : List Char) : Nat :=
  ds.foldl (fun n d =>
    let v :=
      if d.isDigit then d.toNat - '0'.toNat
      else if 'a' ≤ d then d.toNat - 'a'.toNat + 10
      else d.toNat - 'A'.toNat + 10
    n * 16 + v) 0

def escapedOctets : Nat → Scan (List UInt8)
  | 0 => pure []
  | fuel + 1 => do
    if (← peek) = '%' then
      let ds := ((← cursor).rest.drop 1).take 2
      require (ds.length = 2 && ds.all isHex)
      skip 3
      return (hexValue ds).toUInt8 :: (← escapedOctets fuel)
    else return []

def tagText : Nat → Scan (List Char)
  | 0 => pure []
  | fuel + 1 => do
    let plain ← takeWhile fun c => isTagChar c && c ≠ '%'
    if (← peek) = '%' then
      match Text.Utf8.decode (← escapedOctets fuel) with
      | .error _ => malformed
      | .ok cs => return plain ++ cs ++ (← tagText fuel)
    else return plain

def tagRest : Scan String := do
  let cs ← tagText (← rounds)
  require (!cs.isEmpty)
  return String.ofList cs

def tagHandle : Scan String := do
  require ((← peek) = '!')
  skip 1
  if (← peek) = ' ' then return "!"
  let word ← takeWhile isWordChar
  require ((← peek) = '!')
  skip 1
  return String.ofList ('!' :: word ++ ['!'])

def directive : Scan Directive := do
  skip 1
  let name ← takeWhile isWordChar
  require (!name.isEmpty && isSpaceOrEnd (← peek))
  if name = "YAML".toList then
    discard (takeWhile (· = ' '))
    let major ← versionNumber
    require ((← peek) = '.')
    skip 1
    let minor ← versionNumber
    require (isSpaceOrEnd (← peek))
    skipRestOfLine
    return .version major minor
  else if name = "TAG".toList then
    discard (takeWhile (· = ' '))
    let handle ← tagHandle
    require ((← peek) = ' ')
    discard (takeWhile (· = ' '))
    let value ← tagRest
    require (isSpaceOrEnd (← peek))
    skipRestOfLine
    return .tag handle value
  else
    discard (takeWhile (!isLineEnd ·))
    skipRestOfLine
    return .other

def anchorName : Scan String := do
  skip 1
  let name ← takeWhile isWordChar
  require (!name.isEmpty)
  let c ← peek
  require (isGap c || "?:,]\x7d%@\x60".toList.contains c)
  return String.ofList name

def tagToken : Scan Token := do
  let c ← peekAt 1
  let token ←
    if c = '<' then
      skip 2
      let rest ← tagRest
      require ((← peek) = '>')
      skip 1
      pure (Token.tag none rest)
    else if isGap c then
      skip 1
      pure (Token.tag none "!")
    else
      let word := ((← cursor).rest.drop 1).takeWhile (!isSpaceOrEnd ·)
      let handle ←
        if word.contains '!' then tagHandle
        else
          skip 1
          pure "!"
      pure (Token.tag (some handle) (← tagRest))
  require (isSpaceOrEnd (← peek))
  return token

end Scan

end Stepwise.Yaml
