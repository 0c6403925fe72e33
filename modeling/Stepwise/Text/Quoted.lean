import Stepwise.Text.Lone
import Stepwise.Text.Printable

/-!
Texts and bytes between quotes, as messages show them. The single quote is used unless the text
holds one and no double quote. The quote in use and the backslash are escaped, tab, line feed and
carriage return have letters of their own, and anything else without a visible form is written by
its number in two, four or eight hexadecimal digits. So is a lone surrogate.
-/
namespace Stepwise.Text

def hexDigits : Nat → Nat → List Char
  | 0, _ => []
  | width + 1, n => hexDigits width (n / 16) ++ [Nat.digitChar (n % 16)]

/-- An escape of a code point by its number: two digits while they suffice, then four, then
eight. -/
def numericEscape (n : Nat) : List Char :=
  if n < 0x100 then '\\' :: 'x' :: hexDigits 2 n
  else if n < 0x10000 then '\\' :: 'u' :: hexDigits 4 n
  else '\\' :: 'U' :: hexDigits 8 n

def quoteFor (cs : List Char) : Char :=
  if cs.contains '\x27' && !cs.contains '\x22' then '\x22' else '\x27'

def quotedChar (q c : Char) : List Char :=
  if c = q || c = '\\' then ['\\', c]
  else if c = '\t' then ['\\', 't']
  else if c = '\n' then ['\\', 'n']
  else if c = '\r' then ['\\', 'r']
  else if isPrintable c then [c]
  else numericEscape (code c)

def quoted (s : String) : String :=
  let q := quoteFor s.toList
  String.ofList (q :: s.toList.flatMap (quotedChar q) ++ [q])

def quotedOctet (q : Char) (b : UInt8) : List Char :=
  if b < 0x80 then quotedChar q (Char.ofNat b.toNat) else numericEscape b.toNat

def quotedBytes (bytes : List UInt8) : String :=
  let q := quoteFor (bytes.map fun b => Char.ofNat b.toNat)
  String.ofList ('b' :: q :: bytes.flatMap (quotedOctet q) ++ [q])

end Stepwise.Text
