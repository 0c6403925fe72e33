import Stepwise.Machine.Files
import Stepwise.Machine.Integer
import Stepwise.Text.Lines

/-!
Filters: programs that read files, or their input where they are given none, and write what they
make of the lines.
-/
namespace Stepwise.Machine.Filter

open Files (operands hasOption shown)

def linesOf (bytes : List UInt8) : List (List UInt8) :=
  bytes.foldr (fun b acc =>
    if b = 10 then [b] :: acc
    else match acc with
      | line :: more => (b :: line) :: more
      | [] => [[b]]) []

def body (line : List UInt8) : List UInt8 :=
  if line.getLast? = some 10 then line.dropLast else line

def ended (line : List UInt8) : List UInt8 := body line ++ [10]

def sources (w : World) (stdin : List UInt8) (names : List String) :
    List (String × Except Errno (List UInt8)) :=
  if names.isEmpty then [("-", .ok stdin)]
  else names.map fun n => (n, if n = "-" then .ok stdin else w.read n)

def reading (code : Nat) (w : World) (files : List (String × Except Errno (List UInt8)))
    (refused : String → Errno → String) (write : List (String × List UInt8) → List UInt8) :
    Effect :=
  let bad := files.filterMap fun f => match f.2 with
    | .error e => some (refused f.1 e)
    | .ok _ => none
  let good := files.filterMap fun f => match f.2 with
    | .ok bytes => some (f.1, bytes)
    | .error _ => none
  let e := Effect.complaining w (if bad.isEmpty then 0 else code) bad
  { e with written := e.written ++ [(1, write good)] }

def plainly (who : String) (name : String) (e : Errno) : String :=
  who ++ ": " ++ name ++ ": " ++ e.text

def unopened (who : String) (name : String) (e : Errno) : String :=
  if e = .isDirectory then who ++ ": error reading " ++ shown name ++ ": " ++ e.text
  else who ++ ": cannot open " ++ shown name ++ " for reading: " ++ e.text

def cat (who : String) (args : List String) (stdin : List UInt8) (w : World) : Effect :=
  let files := sources w stdin (operands args)
  let firstInput := files.map Prod.fst |>.idxOf "-"
  let files := files.mapIdx fun i f =>
    if f.1 = "-" && i ≠ firstInput then (f.1, .ok []) else f
  let written := files.map fun f => match f.2 with
    | .ok bytes => (1, bytes)
    | .error e => (2, octets (plainly who f.1 e ++ "\n"))
  ⟨.exited (if written.all (·.1 = 1) then 0 else 1), written, [], w⟩

/-- The value of an option, which may follow its letter or be the next argument, and the arguments
without it. -/
def takeOption (letter : Char) : List String → Option String × List String
  | [] => (none, [])
  | arg :: rest =>
    let mark := String.ofList ['-', letter]
    if arg = mark then (rest.head?, rest.drop 1)
    else if arg.startsWith mark then (some (arg.drop 2).toString, rest)
    else
      let (value, rest) := takeOption letter rest
      (value, arg :: rest)

def withCount (args : List String) : List String :=
  args.map fun a => match a.toList with
    | '-' :: c :: cs => if (c :: cs).all Char.isDigit then "-n" ++ String.ofList (c :: cs) else a
    | _ => a

def titled (files : List (String × List UInt8)) (write : List UInt8 → List UInt8) : List UInt8 :=
  if files.length ≤ 1 then files.flatMap fun f => write f.2
  else (files.zipIdx).flatMap fun (f, i) =>
    octets ((if i = 0 then "" else "\n") ++ "==> " ++ f.1 ++ " <==\n") ++ write f.2

def head (who : String) (args : List String) (stdin : List UInt8) (w : World) : Effect :=
  let (octetCount, args) := takeOption 'c' (withCount args)
  let (lineCount, args) := takeOption 'n' args
  let take := fun (bytes : List UInt8) => match octetCount with
    | some n => bytes.take ((count? n).getD 0)
    | none => ((linesOf bytes).take ((lineCount.bind count?).getD 10)).flatten
  reading 1 w (sources w stdin (operands args)) (unopened who) fun files => titled files take

/-- The last lines, or octets; from one on if a plus sign stands before the number. -/
def tail (who : String) (args : List String) (stdin : List UInt8) (w : World) : Effect :=
  let (octetCount, args) := takeOption 'c' (withCount args)
  let (lineCount, args) := takeOption 'n' args
  let last := fun {α : Type} (count : String) (xs : List α) =>
    let n := (count? count).getD 10
    if count.startsWith "+" then xs.drop (n - 1) else xs.drop (xs.length - n)
  let take := fun (bytes : List UInt8) => match octetCount with
    | some n => last n bytes
    | none => (last (lineCount.getD "10") (linesOf bytes)).flatten
  reading 1 w (sources w stdin (operands args)) (unopened who) fun files => titled files take

def wordCount (bytes : List UInt8) : Nat :=
  (bytes.foldl (fun (acc : Nat × Bool) b =>
    let blank := b = 32 || (9 ≤ b && b ≤ 13)
    (if !blank && acc.2 then acc.1 + 1 else acc.1, blank)) (0, true)).1

def countAll (who : String) (args : List String) (stdin : List UInt8) (w : World) : Effect :=
  let files := sources w stdin (operands args)
  let chosen := ['l', 'w', 'm', 'c'].filter (hasOption args)
  let chosen := if chosen.isEmpty then ['l', 'w', 'c'] else chosen
  let numbers := fun (bytes : List UInt8) => chosen.map fun c =>
    if c = 'l' then bytes.count 10 else if c = 'w' then wordCount bytes else bytes.length
  let add := fun (xs ys : List Nat) => List.zipWith (· + ·) xs ys
  reading 1 w files (plainly who) fun good =>
    let rows := good.map fun f => (numbers f.2, if f.1 = "-" && (operands args).isEmpty then ""
      else " " ++ f.1)
    let rows := if files.length ≤ 1 then rows
      else rows ++ [((rows.map Prod.fst).foldl add (chosen.map fun _ => 0), " total")]
    let size := ((good.map fun f => f.2.length).foldl (· + ·) 0)
    let width := if chosen.length = 1 && files.length ≤ 1 then 1
      else if (operands args).isEmpty then 7 else (toString size).length
    octets (String.join (rows.map fun (ns, name) =>
      " ".intercalate (ns.map fun n =>
        let ds := toString n
        String.ofList (List.replicate (width - ds.length) ' ') ++ ds) ++ name ++ "\n"))

def before : List UInt8 → List UInt8 → Bool
  | [], _ => true
  | _ :: _, [] => false
  | a :: as, b :: bs => a < b || (a = b && before as bs)

def leadingNumber (line : List UInt8) : Int :=
  (takeInteger false (Text.Utf8.decodeLossy line)).1.getD 0

def sort (who : String) (args : List String) (stdin : List UInt8) (w : World) : Effect :=
  let files := sources w stdin (operands args)
  let numeric := hasOption args 'n'
  let inOrder := fun (a b : List UInt8) =>
    if numeric && leadingNumber a ≠ leadingNumber b then
      decide (leadingNumber a ≤ leadingNumber b)
    else before a b
  let refused := fun (n : String) (e : Errno) =>
    who ++ (if e = .isDirectory then ": read failed: " else ": cannot read: ") ++ n ++ ": " ++
      e.text
  reading 2 w files refused fun good =>
    let lines := ((good.flatMap fun f => linesOf f.2).map body).mergeSort inOrder
    let lines := if hasOption args 'u' then lines.eraseReps else lines
    let lines := if hasOption args 'r' then lines.reverse else lines
    lines.flatMap ended

def runs (lines : List (List UInt8)) : List (Nat × List UInt8) :=
  lines.foldr (fun line acc => match acc with
    | (n, next) :: rest => if next = line then (n + 1, line) :: rest else (1, line) :: acc
    | [] => [(1, line)]) []

def unique (who : String) (args : List String) (stdin : List UInt8) (w : World) : Effect :=
  reading 1 w (sources w stdin (operands args)) (plainly who) fun good =>
    let found := runs ((good.flatMap fun f => linesOf f.2).map body)
    let found := if hasOption args 'd' then found.filter (1 < ·.1) else found
    let found := if hasOption args 'u' then found.filter (·.1 = 1) else found
    found.flatMap fun (n, line) =>
      let ds := toString n
      (if hasOption args 'c' then
        octets (String.ofList (List.replicate (7 - ds.length) ' ') ++ ds ++ " ") else []) ++
        ended line

def classOf (name : String) : List UInt8 :=
  let between := fun (a b : Char) => (List.range (b.toNat - a.toNat + 1)).map fun i =>
    (a.toNat + i).toUInt8
  match name with
  | "lower" => between 'a' 'z'
  | "upper" => between 'A' 'Z'
  | "digit" => between '0' '9'
  | "alpha" => between 'A' 'Z' ++ between 'a' 'z'
  | "alnum" => between '0' '9' ++ between 'A' 'Z' ++ between 'a' 'z'
  | "space" => [9, 10, 11, 12, 13, 32]
  | "blank" => [9, 32]
  | _ => []

def octetSet : Nat → List Char → List UInt8
  | 0, _ => []
  | _, [] => []
  | fuel + 1, '[' :: ':' :: cs =>
    let name := cs.takeWhile (· ≠ ':')
    classOf (String.ofList name) ++ octetSet fuel (cs.drop (name.length + 2))
  | fuel + 1, '\\' :: cs =>
    match escape cs with
    | some (b, size) => b :: octetSet fuel (cs.drop size)
    | none => octetSet fuel cs
  | fuel + 1, a :: '-' :: b :: cs =>
    if a ≤ b then (List.range (b.toNat - a.toNat + 1)).map (fun i => (a.toNat + i).toUInt8) ++
      octetSet fuel cs
    else octetSet fuel cs
  | fuel + 1, c :: cs => Text.Utf8.encodeChar c ++ octetSet fuel cs
where
  escape : List Char → Option (UInt8 × Nat)
    | 'n' :: _ => some (10, 1)
    | 't' :: _ => some (9, 1)
    | 'r' :: _ => some (13, 1)
    | cs =>
      let ds := digitsOf 8 (cs.take 3)
      if ds.isEmpty then none else some ((ofDigits 8 ds).toUInt8, ds.length)

def squeezed (set : List UInt8) : List UInt8 → List UInt8
  | a :: b :: rest =>
    if a = b && set.contains a then squeezed set (b :: rest) else a :: squeezed set (b :: rest)
  | rest => rest

def transliterate (who : String) (args : List String) (stdin : List UInt8) (w : World) : Effect :=
  let set := fun (s : String) => octetSet (s.length + 1) s.toList
  let complement := hasOption args 'c' || hasOption args 'C'
  let from? := fun (s : String) (b : UInt8) => (set s).contains b != complement
  match operands args with
  | [] => .misuse w 1 who "missing operand"
  | [only] =>
    if hasOption args 'd' then .saying w (stdin.filter fun b => !from? only b)
    else if hasOption args 's' then .saying w (squeezed (set only) stdin)
    else .misuse w 1 who ("missing operand after " ++ shown only ++
      "\nTwo strings must be given when translating.")
  | source :: target :: _ =>
    let targets := set target
    let change := fun (b : UInt8) =>
      if complement then if from? source b then targets.getLast?.getD b else b
      else match (set source).reverse.idxOf? b with
        | some i => (targets[(set source).length - 1 - i]? <|> targets.getLast?).getD b
        | none => b
    let changed := stdin.map change
    .saying w (if hasOption args 's' then squeezed targets changed else changed)

def inRanges (ranges : String) (n : Nat) : Bool :=
  (ranges.splitOn ",").any fun range =>
    match range.splitOn "-" with
    | [a] => count? a = some n
    | [a, b] => ((count? a).getD 1) ≤ n && (b = "" || n ≤ (count? b).getD 0)
    | _ => false

def cut (who : String) (args : List String) (stdin : List UInt8) (w : World) : Effect :=
  let (delimiter, args) := takeOption 'd' args
  let (fields, args) := takeOption 'f' args
  let (characters, args) := takeOption 'c' args
  let (bytes, args) := takeOption 'b' args
  let mark := ((delimiter.bind fun d => (octets d).head?).getD 9)
  let chosen := fun {α : Type} (ranges : String) (xs : List α) =>
    ((xs.zipIdx).filter fun (_, i) => inRanges ranges (i + 1)).map Prod.fst
  match fields, characters <|> bytes with
  | none, none => .misuse w 1 who "you must specify a list of bytes, characters, or fields"
  | fields, positions =>
    reading 1 w (sources w stdin (operands args)) (plainly who) fun good =>
      (good.flatMap fun f => linesOf f.2).flatMap fun line =>
        let line := body line
        match fields, positions with
        | some ranges, _ =>
          if line.contains mark then
            [mark].intercalate (chosen ranges (line.splitOn mark)) ++ [10]
          else if hasOption args 's' then [] else line ++ [10]
        | none, ranges => chosen (ranges.getD "") line ++ [10]

def tee (who : String) (args : List String) (stdin : List UInt8) (w : World) : Effect :=
  let work := fun (w : World) (name : String) =>
    let old := if hasOption args 'a' then ((w.read name).toOption.getD []) else []
    match w.write name (old ++ stdin) with
    | .ok w => .ok w
    | .error e => .error (name ++ ": " ++ e.text)
  let e := Files.each who w (operands args) work
  { e with written := e.written ++ [(1, stdin)] }

def sequence (who : String) (args : List String) (w : World) : Effect :=
  let (separator, args) := takeOption 's' args
  let numbers := args.map fun a => (a, integer? false a)
  match numbers.find? fun n => n.2.isNone, numbers.map fun n => n.2.getD 0 with
  | some (arg, _), _ => .misuse w 1 who ("invalid floating point argument: " ++ shown arg)
  | none, [] => .misuse w 1 who "missing operand"
  | none, ns =>
    let (first, step, last) := match ns with
      | [last] => (1, 1, last)
      | [first, last] => (first, 1, last)
      | first :: step :: last :: _ => (first, step, last)
      | [] => (1, 1, 0)
    let size := if step = 0 then 0 else ((last - first) / step + 1).toNat
    let row := (List.range size).map fun (i : Nat) => toString (first + step * (i : Int))
    .saying w (if row.isEmpty then [] else
      octets ((separator.getD "\n").intercalate row ++ "\n"))

def baseName (who : String) (args : List String) (w : World) : Effect :=
  match args with
  | [] => .misuse w 1 who "missing operand"
  | path :: ending =>
    let name := Files.lastName path
    let name := match ending with
      | e :: _ => if name.endsWith e && name ≠ e then (name.dropEnd e.length).toString else name
      | [] => name
    .saying w (octets ((if path ≠ "" && path.toList.all (· = '/') then "/" else name) ++ "\n"))

def directoryName (who : String) (args : List String) (w : World) : Effect :=
  match args with
  | [] => .misuse w 1 who "missing operand"
  | paths =>
    .saying w (octets (String.join (paths.map fun path =>
      let cs := (path.toList.reverse.dropWhile (· = '/')).dropWhile (· ≠ '/')
      let upper := (cs.dropWhile (· = '/')).reverse
      (if !upper.isEmpty then String.ofList upper
        else if path.startsWith "/" then "/" else ".") ++ "\n")))

end Stepwise.Machine.Filter
