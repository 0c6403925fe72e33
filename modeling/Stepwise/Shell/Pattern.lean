/-!
Patterns: texts in which some characters stand for others. A question mark stands for one character,
a star for any number of them, and brackets for one out of a set; a character that is quoted stands
for itself.
-/
namespace Stepwise.Shell

structure Letter where
  char : Char
  quoted : Bool
  deriving DecidableEq, Repr

inductive Part where
  | char (c : Char)
  | one
  | many
  | set (negated : Bool) (ranges : List (Char × Char))
  deriving DecidableEq, Repr

def classRanges (name : String) : List (Char × Char) :=
  match name with
  | "lower" => [('a', 'z')]
  | "upper" => [('A', 'Z')]
  | "digit" => [('0', '9')]
  | "alpha" => [('A', 'Z'), ('a', 'z')]
  | "alnum" => [('0', '9'), ('A', 'Z'), ('a', 'z')]
  | "xdigit" => [('0', '9'), ('A', 'F'), ('a', 'f')]
  | "space" => [('\t', '\r'), (' ', ' ')]
  | "blank" => [('\t', '\t'), (' ', ' ')]
  | "punct" => [('!', '/'), (':', '@'), ('[', '`'), ('\x7b', '~')]
  | _ => []

/-- The ranges up to the bracket that closes a set, and what follows; nothing if none does. -/
def takeRanges (first : Bool) : Nat → List Letter → Option (List (Char × Char) × List Letter)
  | 0, _ | _, [] => none
  | fuel + 1, a :: rest =>
    let more := fun (range : List (Char × Char)) (rest : List Letter) =>
      (takeRanges false fuel rest).map fun (ranges, rest) => (range ++ ranges, rest)
    if a = ⟨']', false⟩ && !first then some ([], rest)
    else match rest with
      | ⟨':', _⟩ :: inner =>
        let name := (inner.takeWhile fun l => l.char.isAlpha).map Letter.char
        match a, inner.drop name.length with
        | ⟨'[', _⟩, ⟨':', _⟩ :: ⟨']', _⟩ :: rest => more (classRanges (String.ofList name)) rest
        | _, _ => more [(a.char, a.char)] rest
      | ⟨'-', false⟩ :: b :: after =>
        if b = ⟨']', false⟩ then more [(a.char, a.char)] rest
        else more [(a.char, b.char)] after
      | rest => more [(a.char, a.char)] rest

def takePart (l : Letter) (rest : List Letter) : Part × List Letter :=
  let size := rest.length + 1
  match l, rest with
  | ⟨'*', false⟩, rest => (.many, rest)
  | ⟨'?', false⟩, rest => (.one, rest)
  | ⟨'[', false⟩, ⟨'!', false⟩ :: inner | ⟨'[', false⟩, ⟨'^', false⟩ :: inner =>
    match takeRanges true size inner with
    | some (ranges, rest) => (.set true ranges, rest)
    | none => (.char '[', rest)
  | ⟨'[', false⟩, rest =>
    match takeRanges true size rest with
    | some (ranges, rest) => (.set false ranges, rest)
    | none => (.char '[', rest)
  | l, rest => (.char l.char, rest)

def partsFrom : Nat → List Letter → List Part
  | 0, _ | _, [] => []
  | fuel + 1, l :: rest =>
    let (part, rest) := takePart l rest
    part :: partsFrom fuel rest

def pattern (ls : List Letter) : List Part := partsFrom ls.length ls

def Part.fits (c : Char) : Part → Bool
  | char d => c = d
  | one => true
  | many => false
  | set negated ranges => (ranges.any fun (a, b) => a ≤ c && c ≤ b) != negated

def skipAny (rest : List Char → Bool) : List Char → Bool
  | [] => rest []
  | c :: cs => rest (c :: cs) || skipAny rest cs

def fits : List Part → List Char → Bool
  | [], cs => cs.isEmpty
  | .many :: parts, cs => skipAny (fits parts) cs
  | part :: parts, c :: cs => part.fits c && fits parts cs
  | _ :: _, [] => false

def isPattern (ls : List Letter) : Bool :=
  ls.any fun l => !l.quoted && ['*', '?', '['].contains l.char

/-- A text without the shortest or longest part at its start or end that a pattern fits. -/
def trim (atEnd longest : Bool) (parts : List Part) (cs : List Char) : List Char :=
  let sizes := List.range (cs.length + 1)
  let sizes := if longest then sizes.reverse else sizes
  let found := sizes.find? fun n =>
    fits parts (if atEnd then cs.drop (cs.length - n) else cs.take n)
  match found with
  | some n => if atEnd then cs.take (cs.length - n) else cs.drop n
  | none => cs

end Stepwise.Shell
