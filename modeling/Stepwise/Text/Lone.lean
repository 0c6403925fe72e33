/-!
Lone surrogates. A text from outside may hold one half of a pair of surrogates, which is a code
point but no character, and no octets encode it. It is held as a character far up in the private
area that stands for it, so that it keeps its place in a text; `code` gives the code point back. The
characters U+10D800 to U+10DFFF, to which nothing is assigned, are taken for this, and nowhere else
is anything said of them: a text that holds one of these themselves is not among the texts here.
-/
namespace Stepwise.Text

def isSurrogate (n : Nat) : Bool := 0xd800 ≤ n && n ≤ 0xdfff

def loneShift : Nat := 0x100000

def ofCode (n : Nat) : Char := Char.ofNat (if isSurrogate n then n + loneShift else n)

def isLone (c : Char) : Bool := isSurrogate (c.toNat - loneShift)

def code (c : Char) : Nat := if isLone c then c.toNat - loneShift else c.toNat

def hasLone (s : String) : Bool := s.toList.any isLone

theorem toNat_ofCode_of_isSurrogate {n : Nat} (h : isSurrogate n) :
    (ofCode n).toNat = n + loneShift := by
  have hn : n ≤ 0xdfff := by
    simp only [isSurrogate, Bool.and_eq_true, decide_eq_true_eq] at h
    exact h.2
  have hv : (n + loneShift).isValidChar := by
    simp only [Nat.isValidChar, loneShift]
    omega
  rw [ofCode, if_pos h, Char.ofNat, dif_pos hv]
  rfl

theorem code_ofCode {n : Nat} (h : isSurrogate n) : code (ofCode n) = n := by
  have hs : (ofCode n).toNat - loneShift = n := by
    rw [toNat_ofCode_of_isSurrogate h, Nat.add_sub_cancel]
  simp [code, isLone, hs, h]

end Stepwise.Text
