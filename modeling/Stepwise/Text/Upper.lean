/-!
Upper case, as far as it can matter to a comparison with ASCII words. Besides the ASCII letters
only a handful of characters have an upper case with an ASCII letter in it: the sharp s, the
ligatures, the dotless i, the long s and a few letters that take a mark of their own. All others
have an upper case without any, and stand for themselves here.
-/
namespace Stepwise.Text

def asciiUpperCases : List (Char × List Char) :=
  [('ß', ['S', 'S']), ('ı', ['I']), ('ŉ', ['ʼ', 'N']), ('ſ', ['S']), ('ǰ', ['J', '\u030c']),
   ('ẖ', ['H', '\u0331']), ('ẗ', ['T', '\u0308']), ('ẘ', ['W', '\u030a']),
   ('ẙ', ['Y', '\u030a']), ('ẚ', ['A', 'ʾ']), ('ﬀ', ['F', 'F']), ('ﬁ', ['F', 'I']),
   ('ﬂ', ['F', 'L']), ('ﬃ', ['F', 'F', 'I']), ('ﬄ', ['F', 'F', 'L']), ('ﬅ', ['S', 'T']),
   ('ﬆ', ['S', 'T'])]

def upperChar (c : Char) : List Char :=
  if c.toNat < 0x80 then [c.toUpper] else (asciiUpperCases.lookup c).getD [c]

def upper (cs : List Char) : List Char :=
  cs.flatMap upperChar

end Stepwise.Text
