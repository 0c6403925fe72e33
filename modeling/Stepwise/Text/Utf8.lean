import Stepwise.Text.Lone
import Stepwise.Text.Quoted

/-!
Texts as octets. `encode` writes each character in one to four octets; `decode` reads them back
and names the first octet that fits no character, with the reason; `decodeLossy` goes on after it
and puts U+FFFD for each longest run of octets that begins a character and does not end it. A lone
surrogate is no character, so a text with one has no octets; but in names that the system is given,
some of them stand for octets that are no character.
-/
namespace Stepwise.Text.Utf8

inductive Reason where
  | startByte
  | continuation
  | truncated
  deriving DecidableEq, Repr

def Reason.message : Reason → String
  | startByte => "invalid start byte"
  | continuation => "invalid continuation byte"
  | truncated => "unexpected end of data"

def isOctet (c : Char) : Bool := isLone c && 0xdc80 ≤ code c && code c ≤ 0xdcff

def encodeChar (c : Char) : List UInt8 :=
  let n := code c
  if isOctet c then [(n - 0xdc00).toUInt8]
  else if n < 0x80 then [n.toUInt8]
  else if n < 0x800 then [(0xc0 + n / 64).toUInt8, (0x80 + n % 64).toUInt8]
  else if n < 0x10000 then
    [(0xe0 + n / 4096).toUInt8, (0x80 + n / 64 % 64).toUInt8, (0x80 + n % 64).toUInt8]
  else
    [(0xf0 + n / 262144).toUInt8, (0x80 + n / 4096 % 64).toUInt8, (0x80 + n / 64 % 64).toUInt8,
      (0x80 + n % 64).toUInt8]

def encode (cs : List Char) : List UInt8 :=
  cs.flatMap encodeChar

structure EncodeError where
  position : Nat
  codes : List Nat
  deriving DecidableEq, Repr

def EncodeError.message (e : EncodeError) : String :=
  "'utf-8' codec can't encode character" ++
    (match e.codes with
      | [n] => " '" ++ String.ofList (numericEscape n) ++ "' in position " ++ toString e.position
      | codes => "s in position " ++ toString e.position ++ "-" ++
          toString (e.position + codes.length - 1)) ++
    ": surrogates not allowed"

/-- The first lone surrogates of a text that stands at a position, those apart that are `kept`. All
that stand together are told of at once. -/
def encodeErrorFrom (kept : Char → Bool) (position : Nat) : List Char → Option EncodeError
  | [] => none
  | c :: cs =>
    if isLone c && !kept c then some ⟨position, code c :: (cs.takeWhile isLone).map code⟩
    else encodeErrorFrom kept (position + 1) cs

def encodeError? (cs : List Char) : Option EncodeError := encodeErrorFrom (fun _ => false) 0 cs

def nameError? (cs : List Char) : Option EncodeError := encodeErrorFrom isOctet 0 cs

/-- What the octets at hand begin with: a character and the number of its octets, or the number of
octets that belong to no character and why. -/
inductive Next where
  | char (c : Char) (size : Nat)
  | bad (reason : Reason) (size : Nat)

def Next.size : Next → Nat
  | char _ size => size
  | bad _ size => size

def isTail (b : UInt8) : Bool :=
  0x80 ≤ b && b ≤ 0xbf

def tailBits (b : UInt8) : Nat :=
  b.toNat - 0x80

/-- The octets that may come second: overlong forms, surrogates and numbers beyond the last code
point are kept out here. -/
def isSecond (lead b : UInt8) : Bool :=
  if lead = 0xe0 then 0xa0 ≤ b && b ≤ 0xbf
  else if lead = 0xed then 0x80 ≤ b && b ≤ 0x9f
  else if lead = 0xf0 then 0x90 ≤ b && b ≤ 0xbf
  else if lead = 0xf4 then 0x80 ≤ b && b ≤ 0x8f
  else isTail b

def next (lead : UInt8) (rest : List UInt8) : Next :=
  if lead < 0x80 then .char (Char.ofNat lead.toNat) 1
  else if lead < 0xc2 || 0xf4 < lead then .bad .startByte 1
  else match rest with
    | [] => .bad .truncated 1
    | b :: rest =>
      if !isSecond lead b then .bad .continuation 1
      else if lead < 0xe0 then
        .char (Char.ofNat ((lead.toNat - 0xc0) * 64 + tailBits b)) 2
      else match rest with
        | [] => .bad .truncated 2
        | c :: rest =>
          if !isTail c then .bad .continuation 2
          else if lead < 0xf0 then
            .char (Char.ofNat ((lead.toNat - 0xe0) * 4096 + tailBits b * 64 + tailBits c)) 3
          else match rest with
            | [] => .bad .truncated 3
            | d :: _ =>
              if !isTail d then .bad .continuation 3
              else .char (Char.ofNat ((lead.toNat - 0xf0) * 262144 + tailBits b * 4096 +
                tailBits c * 64 + tailBits d)) 4

structure Error where
  position : Nat
  bytes : List UInt8
  reason : Reason
  deriving DecidableEq, Repr

def hexOctet (b : UInt8) : String :=
  String.ofList [Nat.digitChar (b.toNat / 16), Nat.digitChar (b.toNat % 16)]

def Error.message (e : Error) : String :=
  match e.bytes with
  | [b] => "'utf-8' codec can't decode byte 0x" ++ hexOctet b ++ " in position " ++
      toString e.position ++ ": " ++ e.reason.message
  | bytes => "'utf-8' codec can't decode bytes in position " ++ toString e.position ++ "-" ++
      toString (e.position + bytes.length - 1) ++ ": " ++ e.reason.message

def decodeFrom (position : Nat) : List UInt8 → Except Error (List Char)
  | [] => .ok []
  | b :: rest =>
    match next b rest with
    | .char c size => (c :: ·) <$> decodeFrom (position + size) (rest.drop (size - 1))
    | .bad reason size => .error ⟨position, (b :: rest).take size, reason⟩
  termination_by bytes => bytes.length
  decreasing_by simp only [List.length_drop, List.length_cons]; omega

def decode (bytes : List UInt8) : Except Error (List Char) :=
  decodeFrom 0 bytes

def decodeLossy : List UInt8 → List Char
  | [] => []
  | b :: rest =>
    match next b rest with
    | .char c size => c :: decodeLossy (rest.drop (size - 1))
    | .bad _ size => '\ufffd' :: decodeLossy (rest.drop (size - 1))
  termination_by bytes => bytes.length
  decreasing_by all_goals simp only [List.length_drop, List.length_cons]; omega

def decodeName : List UInt8 → List Char
  | [] => []
  | b :: rest =>
    match next b rest with
    | .char c size => c :: decodeName (rest.drop (size - 1))
    | .bad _ _ => ofCode (0xdc00 + b.toNat) :: decodeName rest
  termination_by bytes => bytes.length
  decreasing_by all_goals simp only [List.length_drop, List.length_cons]; omega

end Stepwise.Text.Utf8
