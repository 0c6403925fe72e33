import Stepwise.Machine.Filter

/-!
Searching lines: which lines of files have a part that fits a pattern. A pattern is a row of parts;
each stands for one character, or with a mark behind it for any number of them. What is left of a
text after a pattern is found for all ways in which the pattern fits.
-/
namespace Stepwise.Machine.Search

open Files (operands hasOption)

inductive Atom where
  | char (c : Char)
  | any
  | set (negated : Bool) (ranges : List (Char × Char))

def Atom.fits : Atom → Char → Bool
  | char d, c => c = d
  | any, _ => true
  | set negated ranges, c => (ranges.any fun r => r.1 ≤ c && c ≤ r.2) != negated

inductive Count where
  | once
  | many
  | some
  | perhaps

structure Pattern where
  atStart : Bool
  parts : List (Atom × Count)
  atEnd : Bool

def readRanges (first : Bool) : Nat → List Char → List (Char × Char) × List Char
  | 0, cs => ([], cs)
  | _, [] => ([], [])
  | fuel + 1, c :: cs =>
    if c = ']' && !first then ([], cs)
    else match cs with
      | '-' :: d :: rest =>
        if d = ']' then
          let (more, rest) := readRanges false fuel cs
          ((c, c) :: more, rest)
        else
          let (more, rest) := readRanges false fuel rest
          ((c, d) :: more, rest)
      | cs =>
        let (more, rest) := readRanges false fuel cs
        ((c, c) :: more, rest)

def readAtom (c : Char) (cs : List Char) : Atom × List Char :=
  match c, cs with
  | '.', cs => (.any, cs)
  | '\\', d :: cs => (.char d, cs)
  | '[', '^' :: cs =>
    let (ranges, rest) := readRanges true (cs.length + 1) cs
    (.set true ranges, rest)
  | '[', cs =>
    let (ranges, rest) := readRanges true (cs.length + 1) cs
    (.set false ranges, rest)
  | c, cs => (.char c, cs)

def readParts (extended : Bool) : Nat → List Char → List (Atom × Count) × Bool
  | 0, _ => ([], false)
  | _, [] => ([], false)
  | _, ['$'] => ([], true)
  | fuel + 1, c :: cs =>
    let (atom, rest) := readAtom c cs
    let go := fun (count : Count) (rest : List Char) =>
      let (parts, atEnd) := readParts extended fuel rest
      ((atom, count) :: parts, atEnd)
    match extended, rest with
    | _, '*' :: rest => go .many rest
    | true, '+' :: rest => go .some rest
    | true, '?' :: rest => go .perhaps rest
    | _, rest => go .once rest

def Pattern.ofText (extended : Bool) (cs : List Char) : Pattern :=
  let (atStart, cs) := match cs with
    | '^' :: cs => (true, cs)
    | cs => (false, cs)
  let (parts, atEnd) := readParts extended (cs.length + 1) cs
  ⟨atStart, parts, atEnd⟩

def Pattern.literal (cs : List Char) : Pattern := ⟨false, cs.map fun c => (.char c, .once), false⟩

def afterMany (a : Atom) : List Char → List (List Char)
  | [] => [[]]
  | c :: cs => (c :: cs) :: if a.fits c then afterMany a cs else []

def afterOne (a : Atom) : List Char → List (List Char)
  | c :: cs => if a.fits c then [cs] else []
  | [] => []

def afterPart (part : Atom × Count) (cs : List Char) : List (List Char) :=
  match part.2 with
  | .once => afterOne part.1 cs
  | .many => afterMany part.1 cs
  | .some => (afterOne part.1 cs).flatMap (afterMany part.1)
  | .perhaps => cs :: afterOne part.1 cs

def Pattern.fitsHere (p : Pattern) (cs : List Char) : Bool :=
  (p.parts.foldl (fun left part => left.flatMap (afterPart part)) [cs]).any fun left =>
    !p.atEnd || left.isEmpty

def Pattern.fits (p : Pattern) : List Char → Bool
  | [] => p.fitsHere []
  | c :: cs => p.fitsHere (c :: cs) || (!p.atStart && p.fits cs)

def grep (who : String) (args : List String) (stdin : List UInt8) (w : World) : Effect :=
  match operands args with
  | [] => .complaining w 2 ["Usage: " ++ who ++ " [OPTION]... PATTERNS [FILE]...",
      "Try '" ++ who ++ " --help' for more information."]
  | text :: names =>
    let fold := fun (cs : List Char) => if hasOption args 'i' then cs.map Char.toLower else cs
    let p := if hasOption args 'F' then Pattern.literal (fold text.toList)
      else Pattern.ofText (hasOption args 'E') (fold text.toList)
    let p := if hasOption args 'x' then { p with atStart := true, atEnd := true } else p
    let wanted := fun (line : List UInt8) =>
      p.fits (fold (Text.Utf8.decodeLossy (Filter.body line))) != hasOption args 'v'
    let files := Filter.sources w stdin names
    let wantedOf := fun (bytes : List UInt8) =>
      (Filter.linesOf bytes).zipIdx.filter fun (line, _) => wanted line
    let found := files.map fun f => match f.2 with
      | .ok bytes => (f.1, wantedOf bytes)
      | .error _ => (f.1, [])
    let e := Filter.reading 2 w files (Filter.plainly who) fun _ =>
      if hasOption args 'q' then []
      else found.flatMap fun (name, lines) =>
        let title := if files.length ≤ 1 then "" else name ++ ":"
        if hasOption args 'c' then octets (title ++ toString lines.length ++ "\n")
        else if hasOption args 'l' then if lines.isEmpty then [] else octets (name ++ "\n")
        else lines.flatMap fun (line, i) =>
          octets (title ++ if hasOption args 'n' then toString (i + 1) ++ ":" else "") ++
            Filter.ended line
    match e.ended with
    | .exited 0 => { e with ended := .exited (if found.all fun f => f.2.isEmpty then 1 else 0) }
    | _ => e

end Stepwise.Machine.Search
