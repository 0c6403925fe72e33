import Mathlib.Data.List.Infix
import Stepwise.Text.Utf8

/-! What octets begin with, told apart from how it is found. `Opens` says by ranges and by the number
that the octets carry what the next character is, or how many octets were begun and go wrong. `next`
finds just that, and a character is opened by what it is written as and by nothing else, so overlong
forms, surrogates and numbers past the last code point open no character. -/
namespace Stepwise.Text.Utf8

def missing (rest : List UInt8) : Reason := if rest = [] then .truncated else .continuation

/-- What an octet opens with those that follow it, told by the ranges of the octets and the number
that they carry. -/
inductive Opens (lead : UInt8) : List UInt8 → Next → Prop where
  | one {x : Char} {rest : List UInt8} (plain : lead.toNat < 0x80) (code : x.toNat = lead.toNat) :
      Opens lead rest (.char x 1)
  | two {x : Char} {b : UInt8} {rest : List UInt8} (low : 0xc2 ≤ lead.toNat)
      (high : lead.toNat < 0xe0) (second : isSecond lead b)
      (code : x.toNat = (lead.toNat - 0xc0) * 64 + tailBits b) : Opens lead (b :: rest) (.char x 2)
  | three {x : Char} {b c : UInt8} {rest : List UInt8} (low : 0xe0 ≤ lead.toNat)
      (high : lead.toNat < 0xf0) (second : isSecond lead b) (third : isTail c)
      (code : x.toNat = (lead.toNat - 0xe0) * 4096 + tailBits b * 64 + tailBits c) :
      Opens lead (b :: c :: rest) (.char x 3)
  | four {x : Char} {b c d : UInt8} {rest : List UInt8} (low : 0xf0 ≤ lead.toNat)
      (high : lead.toNat ≤ 0xf4) (second : isSecond lead b) (third : isTail c) (fourth : isTail d)
      (code : x.toNat = (lead.toNat - 0xf0) * 262144 + tailBits b * 4096 + tailBits c * 64 +
        tailBits d) :
      Opens lead (b :: c :: d :: rest) (.char x 4)
  | noLead {rest : List UInt8}
      (outside : 0x80 ≤ lead.toNat ∧ lead.toNat < 0xc2 ∨ 0xf4 < lead.toNat) :
      Opens lead rest (.bad .startByte 1)
  | noSecond {rest : List UInt8} (low : 0xc2 ≤ lead.toNat) (high : lead.toNat ≤ 0xf4)
      (no : ∀ b, rest.head? = some b → isSecond lead b = false) :
      Opens lead rest (.bad (missing rest) 1)
  | noThird {b : UInt8} {rest : List UInt8} (low : 0xe0 ≤ lead.toNat) (high : lead.toNat ≤ 0xf4)
      (second : isSecond lead b) (no : ∀ c, rest.head? = some c → isTail c = false) :
      Opens lead (b :: rest) (.bad (missing rest) 2)
  | noFourth {b c : UInt8} {rest : List UInt8} (low : 0xf0 ≤ lead.toNat)
      (high : lead.toNat ≤ 0xf4) (second : isSecond lead b) (third : isTail c)
      (no : ∀ d, rest.head? = some d → isTail d = false) :
      Opens lead (b :: c :: rest) (.bad (missing rest) 3)

section Octets

variable {lead b : UInt8}

theorem isTail_iff : isTail b ↔ b.toNat = 0x80 + tailBits b ∧ tailBits b < 0x40 := by
  have bits : tailBits b = b.toNat - 0x80 := rfl
  simp only [isTail, Bool.and_eq_true, decide_eq_true_eq, UInt8.le_iff_toNat_le, UInt8.reduceToNat]
  omega

/-- The second octet carries six bits too, but not all of them with every first one. -/
theorem isSecond_iff : isSecond lead b ↔ isTail b ∧
    (lead.toNat = 0xe0 → 0x20 ≤ tailBits b) ∧ (lead.toNat = 0xed → tailBits b < 0x20) ∧
    (lead.toNat = 0xf0 → 0x10 ≤ tailBits b) ∧ (lead.toNat = 0xf4 → tailBits b < 0x10) := by
  have bits : tailBits b = b.toNat - 0x80 := rfl
  have same : ∀ n : UInt8, lead = n ↔ lead.toNat = n.toNat := fun n => UInt8.toNat_inj.symm
  simp only [isSecond, same, UInt8.reduceToNat]
  repeat' split
  all_goals
    simp only [Bool.and_eq_true, decide_eq_true_eq, UInt8.le_iff_toNat_le, UInt8.reduceToNat,
      isTail_iff]
    omega

theorem toNat_ofNat {n : Nat} (last : n < 0x110000) (apart : n ≤ 0xdfff → n < 0xd800) :
    (Char.ofNat n).toNat = n := by
  have valid : n.isValidChar := by
    by_cases low : n ≤ 0xdfff
    · exact .inl (apart low)
    · exact .inr ⟨by omega, last⟩
  rw [Char.ofNat, dif_pos valid]
  rfl

theorem next_opens (lead : UInt8) (rest : List UInt8) : Opens lead rest (next lead rest) := by
  have below : ∀ {x : UInt8}, lead < x → lead.toNat < x.toNat := UInt8.lt_iff_toNat_lt.mp
  have above : ∀ {x : UInt8}, ¬ lead < x → x.toNat ≤ lead.toNat := by
    intro x h
    rwa [UInt8.lt_iff_toNat_lt, Nat.not_lt] at h
  have begun : ¬ (decide (lead < 0xc2) || decide (0xf4 < lead)) = true →
      0xc2 ≤ lead.toNat ∧ lead.toNat ≤ 0xf4 := by
    intro h
    simpa [UInt8.lt_iff_toNat_lt] using h
  have fits : ∀ {p : Bool}, ¬ (!p) = true → p = true := by simp
  have other : ∀ {p : Bool}, (!p) = true → p = false := by simp
  have only : ∀ {x y : UInt8} {xs : List UInt8} {p : UInt8 → Bool}, p x = false →
      (x :: xs).head? = some y → p y = false := by
    rintro x y xs p no ⟨⟩
    exact no
  -- The range of the second octet keeps the number off the surrogates and under the last code point.
  fun_cases next lead rest with
  | case1 rest plain =>
    have plain : lead.toNat < 0x80 := below plain
    exact .one plain (toNat_ofNat (by omega) (by omega))
  | case2 rest beyond outside =>
    have beyond : 0x80 ≤ lead.toNat := above beyond
    have outside : lead.toNat < 0xc2 ∨ 0xf4 < lead.toNat := by
      simpa [UInt8.lt_iff_toNat_lt] using outside
    exact .noLead (by omega)
  | case3 _ inside => exact .noSecond (begun inside).1 (begun inside).2 nofun
  | case4 _ inside b rest no =>
    exact .noSecond (begun inside).1 (begun inside).2 fun _ => only (other no)
  | case5 _ inside b rest second two =>
    have two : lead.toNat < 0xe0 := below two
    have bits := (isTail_iff.mp (isSecond_iff.mp (fits second)).1).2
    have code := toNat_ofNat (n := (lead.toNat - 0xc0) * 64 + tailBits b) (by omega) (by omega)
    exact .two (begun inside).1 two (fits second) code
  | case6 _ inside b second three =>
    exact .noThird (above three) (begun inside).2 (fits second) nofun
  | case7 _ inside b second three c rest no =>
    exact .noThird (above three) (begun inside).2 (fits second) fun _ => only (other no)
  | case8 _ inside b second three c rest third high =>
    have three : 0xe0 ≤ lead.toNat := above three
    have high : lead.toNat < 0xf0 := below high
    obtain ⟨tail, range⟩ := isSecond_iff.mp (fits second)
    have bits := (isTail_iff.mp tail).2
    have more := (isTail_iff.mp (fits third)).2
    have code := toNat_ofNat (n := (lead.toNat - 0xe0) * 4096 + tailBits b * 64 + tailBits c)
      (by omega) (by omega)
    exact .three three high (fits second) (fits third) code
  | case9 _ inside b second _ c third four =>
    exact .noFourth (above four) (begun inside).2 (fits second) (fits third) nofun
  | case10 _ inside b second _ c third four d rest no =>
    exact .noFourth (above four) (begun inside).2 (fits second) (fits third) fun _ =>
      only (other no)
  | case11 _ inside b second _ c third four d rest fourth =>
    have four : 0xf0 ≤ lead.toNat := above four
    have inside := begun inside
    obtain ⟨tail, range⟩ := isSecond_iff.mp (fits second)
    have bits := (isTail_iff.mp tail).2
    have more := (isTail_iff.mp (fits third)).2
    have last := (isTail_iff.mp (fits fourth)).2
    have code := toNat_ofNat (n := (lead.toNat - 0xf0) * 262144 + tailBits b * 4096 +
      tailBits c * 64 + tailBits d) (by omega) (by omega)
    exact .four four inside.2 (fits second) (fits third) (fits fourth) code

variable {rest : List UInt8} {x : Char} {size : Nat}

theorem Opens.next_eq {n : Next} (h : Opens lead rest n) : next lead rest = n := by
  have below : ∀ {y : UInt8}, lead < y ↔ lead.toNat < y.toNat := UInt8.lt_iff_toNat_lt
  have above : ∀ {y : UInt8}, y < lead ↔ y.toNat < lead.toNat := UInt8.lt_iff_toNat_lt
  have self : ∀ {y : Char} {n : Nat}, y.toNat = n → Char.ofNat n = y := by
    rintro y _ rfl
    exact Char.ofNat_toNat y
  cases h with
  | one plain code => simp [next, below, plain, self code]
  | two low high second code =>
    have inside : ¬ lead.toNat < 0x80 ∧ ¬ lead.toNat < 0xc2 ∧ ¬ 0xf4 < lead.toNat := by omega
    simp [next, below, above, inside, second, high, self code]
  | three low high second third code =>
    have inside : ¬ lead.toNat < 0x80 ∧ ¬ lead.toNat < 0xc2 ∧ ¬ 0xf4 < lead.toNat ∧
      ¬ lead.toNat < 0xe0 := by omega
    simp [next, below, above, inside, second, third, high, self code]
  | four low high second third fourth code =>
    have inside : ¬ lead.toNat < 0x80 ∧ ¬ lead.toNat < 0xc2 ∧ ¬ 0xf4 < lead.toNat ∧
      ¬ lead.toNat < 0xe0 ∧ ¬ lead.toNat < 0xf0 := by omega
    simp [next, below, above, inside, second, third, fourth, self code]
  | noLead outside =>
    have beyond : ¬ lead.toNat < 0x80 := by omega
    have outside : lead.toNat < 0xc2 ∨ 0xf4 < lead.toNat := by omega
    simp [next, below, above, beyond, outside]
  | noSecond low high no =>
    have inside : ¬ lead.toNat < 0x80 ∧ ¬ lead.toNat < 0xc2 ∧ ¬ 0xf4 < lead.toNat := by omega
    cases rest with
    | nil => simp [next, below, above, inside, missing]
    | cons b rest => simp [next, below, above, inside, no b rfl, missing]
  | @noThird b rest low high second no =>
    have inside : ¬ lead.toNat < 0x80 ∧ ¬ lead.toNat < 0xc2 ∧ ¬ 0xf4 < lead.toNat ∧
      ¬ lead.toNat < 0xe0 := by omega
    cases rest with
    | nil => simp [next, below, above, inside, second, missing]
    | cons c rest => simp [next, below, above, inside, second, no c rfl, missing]
  | @noFourth b c rest low high second third no =>
    have inside : ¬ lead.toNat < 0x80 ∧ ¬ lead.toNat < 0xc2 ∧ ¬ 0xf4 < lead.toNat ∧
      ¬ lead.toNat < 0xe0 ∧ ¬ lead.toNat < 0xf0 := by omega
    cases rest with
    | nil => simp [next, below, above, inside, second, third, missing]
    | cons d rest => simp [next, below, above, inside, second, third, no d rfl, missing]

theorem toNat_octet {n : Nat} (h : n < 256) : (UInt8.ofNat n).toNat = n :=
  UInt8.toNat_ofNat_of_lt h

theorem isTail_octet {n : Nat} (h : n < 0x40) :
    isTail (UInt8.ofNat (n + 0x80)) ∧ tailBits (UInt8.ofNat (n + 0x80)) = n := by
  have value := toNat_octet (by omega : n + 0x80 < 256)
  have bits : tailBits (UInt8.ofNat (n + 0x80)) = n := by
    unfold tailBits
    omega
  refine ⟨isTail_iff.mpr ?_, bits⟩
  omega

theorem opens_encoded {tail : List UInt8} (h : String.utf8EncodeChar x = lead :: tail)
    (rest : List UInt8) : Opens lead (tail ++ rest) (.char x (tail.length + 1)) := by
  have valid : x.toNat < 0xd800 ∨ 0xdfff < x.toNat ∧ x.toNat < 0x110000 := x.valid
  have bits : ∀ n, n % 0x40 < 0x40 := fun n => Nat.mod_lt n (by decide)
  unfold String.utf8EncodeChar at h
  have code : x.val.toNat = x.toNat := rfl
  simp only [code] at h
  split at h
  · cases h
    have lead := toNat_octet (by omega : x.toNat < 256)
    exact .one (by omega) lead.symm
  split at h
  · cases h
    have lead := toNat_octet (by omega : x.toNat / 64 % 32 + 0xc0 < 256)
    obtain ⟨second, low⟩ := isTail_octet (bits x.toNat)
    refine .two (by omega) (by omega) (isSecond_iff.mpr ⟨second, ?_⟩) ?_
    · omega
    · omega
  split at h
  · cases h
    have lead := toNat_octet (by omega : x.toNat / 4096 % 16 + 0xe0 < 256)
    obtain ⟨second, middle⟩ := isTail_octet (bits (x.toNat / 64))
    obtain ⟨third, low⟩ := isTail_octet (bits x.toNat)
    refine .three (by omega) (by omega) (isSecond_iff.mpr ⟨second, ?_⟩) third ?_
    · omega
    · omega
  · cases h
    have lead := toNat_octet (by omega : x.toNat / 262144 % 8 + 0xf0 < 256)
    obtain ⟨second, high⟩ := isTail_octet (bits (x.toNat / 4096))
    obtain ⟨third, middle⟩ := isTail_octet (bits (x.toNat / 64))
    obtain ⟨fourth, low⟩ := isTail_octet (bits x.toNat)
    refine .four (by omega) (by omega) (isSecond_iff.mpr ⟨second, ?_⟩) third fourth ?_
    · omega
    · omega

theorem encoded_of_opens (h : Opens lead rest (.char x size)) :
    ∃ tail more, rest = tail ++ more ∧ String.utf8EncodeChar x = lead :: tail ∧
      size = tail.length + 1 := by
  have code : x.val.toNat = x.toNat := rfl
  have octet : ∀ {n : Nat} {y : UInt8}, y.toNat = n → UInt8.ofNat n = y := by
    rintro _ y rfl
    exact UInt8.ofNat_toNat
  unfold String.utf8EncodeChar
  simp only [code]
  cases h with
  | one plain value =>
    refine ⟨[], rest, rfl, ?_, rfl⟩
    rw [if_pos (by omega), octet value.symm]
  | @two _ b more low high second value =>
    obtain ⟨tail, -⟩ := isSecond_iff.mp second
    obtain ⟨second, bits⟩ := isTail_iff.mp tail
    refine ⟨[b], more, rfl, ?_, rfl⟩
    rw [if_neg (by omega), if_pos (by omega), octet (y := lead) (by omega), octet (y := b) (by omega)]
  | @three _ b c more low high second third value =>
    obtain ⟨tail, range⟩ := isSecond_iff.mp second
    obtain ⟨second, bits⟩ := isTail_iff.mp tail
    obtain ⟨third, last⟩ := isTail_iff.mp third
    refine ⟨[b, c], more, rfl, ?_, rfl⟩
    rw [if_neg (by omega), if_neg (by omega), if_pos (by omega), octet (y := lead) (by omega),
      octet (y := b) (by omega), octet (y := c) (by omega)]
  | @four _ b c d more low high second third fourth value =>
    obtain ⟨tail, range⟩ := isSecond_iff.mp second
    obtain ⟨second, bits⟩ := isTail_iff.mp tail
    obtain ⟨third, middle⟩ := isTail_iff.mp third
    obtain ⟨fourth, last⟩ := isTail_iff.mp fourth
    refine ⟨[b, c, d], more, rfl, ?_, rfl⟩
    rw [if_neg (by omega), if_neg (by omega), if_neg (by omega), octet (y := lead) (by omega),
      octet (y := b) (by omega), octet (y := c) (by omega), octet (y := d) (by omega)]

end Octets

end Stepwise.Text.Utf8
