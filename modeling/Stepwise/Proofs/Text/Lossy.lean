import Mathlib.Data.List.Flatten
import Stepwise.Proofs.Text.Octets

/-! Reading octets whatever they are. A text is read character by character, and where no character
stands the longest run of octets that begins one is replaced as a whole, or a single octet if none
begins one. `Reads` is that rule; it gives one text for all octets, and `decodeLossy` is it. Octets
before or between the replaced ones are read as if these were not there. -/
namespace Stepwise.Text.Utf8

variable {bytes part rest : List UInt8} {cs : List Char}

def Begins (part : List UInt8) : Prop := ∃ c, part <+: String.utf8EncodeChar c

/-- A part of octets that is replaced as a whole, with the octets after it. -/
structure Broken (part rest : List UInt8) : Prop where
  filled : part ≠ []
  noChar : ∀ c, ¬ String.utf8EncodeChar c <+: part ++ rest
  begun : part.length = 1 ∨ Begins part
  longest : ∀ more, more <+: part ++ rest → part.length < more.length → ¬ Begins more

/-- The text that octets read as. -/
inductive Reads : List UInt8 → List Char → Prop where
  | done : Reads [] []
  | char (c : Char) {rest : List UInt8} {cs : List Char} (reads : Reads rest cs) :
      Reads (String.utf8EncodeChar c ++ rest) (c :: cs)
  | replaced {part rest : List UInt8} {cs : List Char} (broken : Broken part rest)
      (reads : Reads rest cs) : Reads (part ++ rest) ('\ufffd' :: cs)

theorem exists_lead (c : Char) : ∃ lead tail, String.utf8EncodeChar c = lead :: tail :=
  List.exists_cons_of_ne_nil String.utf8EncodeChar_ne_nil

theorem Opens.unique {lead : UInt8} {n m : Next} (first : Opens lead rest n)
    (second : Opens lead rest m) : n = m :=
  first.next_eq.symm.trans second.next_eq

theorem Broken.unique {part' rest' : List UInt8} (broken : Broken part rest)
    (broken' : Broken part' rest') (same : part ++ rest = part' ++ rest') : part = part' := by
  -- A shorter part would not be the longest one that begins a character.
  have shorter : ∀ {p r q t : List UInt8}, Broken p r → Broken q t → p ++ r = q ++ t →
      ¬ p.length < q.length := by
    intro p r q t first second same less
    have begins : ¬ Begins q := first.longest q (same ▸ List.prefix_append q t) less
    have single : q.length = 1 := second.begun.resolve_right begins
    have filled : 0 < p.length := List.length_pos_of_ne_nil first.filled
    omega
  have above : ¬ part.length < part'.length := shorter broken broken' same
  have below : ¬ part'.length < part.length := shorter broken' broken same.symm
  exact (List.append_inj same (by omega)).1

section Opening

variable {lead : UInt8} {reason : Reason} {size : Nat}

theorem ne_encoded_of_opens (bad : Opens lead rest (.bad reason size)) (c : Char) :
    ¬ String.utf8EncodeChar c <+: lead :: rest := by
  rintro ⟨more, same⟩
  obtain ⟨first, tail, encoded⟩ := exists_lead c
  rw [encoded, List.cons_append] at same
  obtain ⟨rfl, rfl⟩ := List.cons.inj same
  cases (opens_encoded encoded more).unique bad

theorem encoded_take {x : Char} (opens : Opens lead rest (.char x size)) :
    String.utf8EncodeChar x = lead :: rest.take (size - 1) := by
  obtain ⟨tail, more, rfl, encoded, rfl⟩ := encoded_of_opens opens
  rw [Nat.add_sub_cancel, List.take_left, encoded]

theorem exists_encoded {b c : UInt8} (low : 0xe0 ≤ lead.toNat) (high : lead.toNat ≤ 0xf4)
    (second : isSecond lead b) (third : isTail c) :
    ∃ x tail, String.utf8EncodeChar x = lead :: b :: c :: tail := by
  have fourth : isTail 0x80 := by decide
  have opens := next_opens lead [b, c, 0x80]
  generalize next lead [b, c, 0x80] = n at opens
  cases opens with
  | one plain => omega
  | two _ two => omega
  | @three x _ _ _ low high second third code =>
    have opens : Opens lead [b, c, 0x80] (.char x 3) := .three low high second third code
    exact ⟨x, [], encoded_take opens⟩
  | @four x _ _ _ _ low high second third fourth code =>
    have opens : Opens lead [b, c, 0x80] (.char x 4) := .four low high second third fourth code
    exact ⟨x, [0x80], encoded_take opens⟩
  | noLead outside => omega
  | noSecond _ _ no => cases (no b rfl).symm.trans second
  | noThird _ _ _ no => cases (no c rfl).symm.trans third
  | noFourth _ _ _ _ no => cases (no 0x80 rfl).symm.trans fourth

theorem opens_bad_congr {rest' : List UInt8} (bad : Opens lead rest (.bad reason size))
    (near : rest.take size = rest'.take size) : ∃ r, Opens lead rest' (.bad r size) := by
  have head : ∀ {xs ys : List UInt8}, xs.take 1 = ys.take 1 → xs.head? = ys.head? := by
    intro xs ys same
    have taken := congrArg List.head? same
    rwa [List.head?_take, List.head?_take] at taken
  cases bad with
  | noLead outside => exact ⟨_, .noLead outside⟩
  | noSecond low high no => exact ⟨_, .noSecond low high (head near ▸ no)⟩
  | noThird low high second no =>
    cases rest' with
    | nil => cases near
    | cons b rest' =>
      simp only [List.take_succ_cons, List.cons.injEq] at near
      obtain ⟨rfl, near⟩ := near
      exact ⟨_, .noThird low high second (head near ▸ no)⟩
  | noFourth low high second third no =>
    match rest', near with
    | [], near => cases near
    | [_], near => cases near
    | b :: c :: rest', near =>
      simp only [List.take_succ_cons, List.cons.injEq] at near
      obtain ⟨rfl, rfl, near⟩ := near
      exact ⟨_, .noFourth low high second third (head near ▸ no)⟩

theorem not_begins_of_opens (bad : Opens lead rest (.bad reason size)) {more : List UInt8}
    (prior : more <+: lead :: rest) (longer : size < more.length) : ¬ Begins more := by
  rintro ⟨x, last, encoded⟩
  cases more with
  | nil => cases longer
  | cons first mid =>
    obtain ⟨rfl, after, rfl⟩ := List.cons_prefix_cons.mp prior
    have long : size ≤ mid.length := Nat.le_of_lt_succ longer
    have near : (mid ++ after).take size = (mid ++ last ++ []).take size := by
      rw [List.take_append_of_le_length long, List.append_assoc, List.take_append_of_le_length long]
    obtain ⟨reason, bad⟩ := opens_bad_congr bad near
    cases (opens_encoded encoded.symm []).unique bad

theorem size_bounds (bad : Opens lead rest (.bad reason size)) :
    0 < size ∧ size ≤ rest.length + 1 := by
  cases bad <;> simp

theorem broken_of_opens (bad : Opens lead rest (.bad reason size)) :
    Broken (lead :: rest.take (size - 1)) (rest.drop (size - 1)) := by
  obtain ⟨positive, bound⟩ := size_bounds bad
  have whole : lead :: rest.take (size - 1) ++ rest.drop (size - 1) = lead :: rest := by
    rw [List.cons_append, List.take_append_drop]
  have length : (lead :: rest.take (size - 1)).length = size := by
    rw [List.length_cons, List.length_take_of_le (by omega), Nat.sub_add_cancel positive]
  constructor
  case filled => exact List.cons_ne_nil _ _
  case noChar =>
    rw [whole]
    exact ne_encoded_of_opens bad
  case longest =>
    rw [whole, length]
    exact fun more => not_begins_of_opens bad
  case begun =>
    cases bad with
    | noLead => exact .inl rfl
    | noSecond => exact .inl rfl
    | noThird low high second =>
      obtain ⟨x, tail, encoded⟩ := exists_encoded low high second (by decide : isTail 0x80)
      exact .inr ⟨x, 0x80 :: tail, encoded.symm⟩
    | noFourth low high second third =>
      obtain ⟨x, tail, encoded⟩ := exists_encoded (by omega) high second third
      exact .inr ⟨x, tail, encoded.symm⟩

end Opening

theorem decodeLossy_char (c : Char) (rest : List UInt8) :
    decodeLossy (String.utf8EncodeChar c ++ rest) = c :: decodeLossy rest := by
  obtain ⟨lead, tail, encoded⟩ := exists_lead c
  rw [encoded, List.cons_append, decodeLossy, (opens_encoded encoded rest).next_eq]
  simp only [Nat.add_sub_cancel, List.drop_left]

theorem decodeLossy_broken (broken : Broken part rest) :
    decodeLossy (part ++ rest) = '\ufffd' :: decodeLossy rest := by
  cases part with
  | nil => exact absurd rfl broken.filled
  | cons lead tail =>
    have opens := next_opens lead (tail ++ rest)
    rw [List.cons_append, decodeLossy]
    cases first : next lead (tail ++ rest) with
    | char x size =>
      rw [first] at opens
      obtain ⟨used, more, split, encoded, -⟩ := encoded_of_opens opens
      refine absurd ⟨more, ?_⟩ (broken.noChar x)
      rw [encoded, List.cons_append, List.cons_append, split]
    | bad reason size =>
      rw [first] at opens
      -- What the reader takes away is a broken part too, and there is only one.
      have split : lead :: (tail ++ rest).take (size - 1) ++ (tail ++ rest).drop (size - 1) =
          lead :: tail ++ rest := by
        rw [List.cons_append, List.take_append_drop, List.cons_append]
      rw [(broken_of_opens opens).unique broken split] at split
      simp only [List.append_cancel_left split]

theorem reads_iff : Reads bytes cs ↔ decodeLossy bytes = cs := by
  constructor
  · intro reads
    induction reads with
    | done => rw [decodeLossy]
    | char c reads ih => rw [decodeLossy_char, ih]
    | replaced broken reads ih => rw [decodeLossy_broken broken, ih]
  · rintro rfl
    fun_induction decodeLossy bytes with
    | case1 => exact .done
    | case2 lead rest c size first ih =>
      obtain ⟨tail, more, rfl, encoded, rfl⟩ := encoded_of_opens (first ▸ next_opens lead rest)
      rw [Nat.add_sub_cancel, List.drop_left] at ih ⊢
      rw [← List.cons_append, ← encoded]
      exact .char c ih
    | case3 lead rest reason size first ih =>
      have reads := Reads.replaced (broken_of_opens (first ▸ next_opens lead rest)) ih
      rwa [List.cons_append, List.take_append_drop] at reads

/-- Characters are read back from what they are written as, whatever follows. -/
theorem decodeLossy_flatMap (cs : List Char) (rest : List UInt8) :
    decodeLossy (cs.flatMap String.utf8EncodeChar ++ rest) = cs ++ decodeLossy rest := by
  induction cs with
  | nil => rfl
  | cons c cs ih =>
    rw [List.flatMap_cons, List.append_assoc, decodeLossy_char, ih, List.cons_append]

theorem decodeFrom_eq_ok {position : Nat} :
    decodeFrom position bytes = .ok cs ↔ bytes = cs.flatMap String.utf8EncodeChar := by
  constructor
  · intro decoded
    fun_induction decodeFrom position bytes generalizing cs with
    | case1 =>
      cases decoded
      rfl
    | case2 position lead rest c size first ih =>
      obtain ⟨tail, more, rfl, encoded, rfl⟩ := encoded_of_opens (first ▸ next_opens lead rest)
      rw [Nat.add_sub_cancel, List.drop_left] at decoded ih
      cases after : decodeFrom (position + (tail.length + 1)) more with
      | error =>
        rw [after] at decoded
        cases decoded
      | ok cs =>
        rw [after] at decoded
        cases decoded
        rw [List.flatMap_cons, encoded, ← ih after, List.cons_append]
    | case3 => cases decoded
  · rintro rfl
    induction cs generalizing position with
    | nil =>
      rw [List.flatMap_nil, decodeFrom]
    | cons c cs ih =>
      obtain ⟨lead, tail, encoded⟩ := exists_lead c
      rw [List.flatMap_cons, encoded, List.cons_append, decodeFrom,
        (opens_encoded encoded _).next_eq]
      simp only [Nat.add_sub_cancel, List.drop_left, ih]
      rfl

/-- The octets that the characters of a text are written as, each as itself. -/
def octets (s : String) : List UInt8 := s.toUTF8.data.toList

theorem octets_eq (s : String) : octets s = s.toList.flatMap String.utf8EncodeChar := by
  conv_lhs => rw [← String.ofList_toList (s := s)]
  rw [octets, String.toUTF8, String.toByteArray_ofList, List.utf8Encode, List.data_toByteArray]

theorem encodeChar_eq {c : Char} (whole : isLone c = false) :
    encodeChar c = String.utf8EncodeChar c := by
  have itself : code c = c.toNat := by simp [code, whole]
  have kept : isOctet c = false := by simp [isOctet, whole]
  have value : c.val.toNat = c.toNat := rfl
  have valid : c.toNat < 0xd800 ∨ 0xdfff < c.toNat ∧ c.toNat < 0x110000 := c.valid
  simp only [encodeChar, String.utf8EncodeChar, itself, kept, value, Nat.toUInt8,
    Bool.false_eq_true, if_false]
  have last : ∀ {n}, c.toNat ≤ n ↔ c.toNat < n + 1 := Nat.lt_succ_iff.symm
  simp only [last, Nat.reduceAdd]
  by_cases one : c.toNat < 0x80
  · rw [if_pos one, if_pos one]
  rw [if_neg one, if_neg one]
  by_cases two : c.toNat < 0x800
  · have lead : c.toNat / 64 % 32 = c.toNat / 64 := Nat.mod_eq_of_lt (by omega)
    rw [if_pos two, if_pos two, lead, Nat.add_comm 0xc0, Nat.add_comm 0x80]
  rw [if_neg two, if_neg two]
  by_cases three : c.toNat < 0x10000
  · have lead : c.toNat / 4096 % 16 = c.toNat / 4096 := Nat.mod_eq_of_lt (by omega)
    rw [if_pos three, if_pos three, lead]
    simp only [Nat.add_comm]
  · have lead : c.toNat / 262144 % 8 = c.toNat / 262144 := Nat.mod_eq_of_lt (by omega)
    rw [if_neg three, if_neg three, lead]
    simp only [Nat.add_comm]

theorem encode_eq_octets {s : String} (whole : hasLone s = false) :
    encode s.toList = octets s := by
  rw [octets_eq, encode]
  apply List.flatMap_congr
  intro c member
  have itself : isLone c = false := by simpa using List.any_eq_false.mp whole c member
  exact encodeChar_eq itself

end Stepwise.Text.Utf8
