import Stepwise.Decimal.Read
import Stepwise.Log.Template
import Stepwise.Machine.Effect
import Stepwise.Machine.Integer

/-!
Written texts: the arguments that `echo` repeats, and the formats of `printf`, in which a percent
sign opens a slot for an argument and a backslash stands before the name of an octet. A format is
written again as long as arguments are left. A shell has both built in, and there they differ a
little from the programs.
-/
namespace Stepwise.Machine

def escapes : List (Char × UInt8) :=
  [('a', 7), ('b', 8), ('e', 27), ('f', 12), ('n', 10), ('r', 13), ('t', 9), ('v', 11), ('\\', 92)]

/-- The octet that a backslash before a text means, and the number of characters that it takes. -/
def escape? (builtIn : Bool) (cs : List Char) : Option (UInt8 × Nat) :=
  match cs with
  | [] => none
  | c :: rest =>
    let octal := digitsOf 8 (cs.take 3)
    let hexadecimal := digitsOf 16 (rest.take 2)
    if !octal.isEmpty then some ((ofDigits 8 octal).toUInt8, octal.length)
    else if c = 'x' && !builtIn && !hexadecimal.isEmpty then
      some ((ofDigits 16 hexadecimal).toUInt8, hexadecimal.length + 1)
    else (escapes.lookup c).map fun b => (b, 1)

def unescape (builtIn : Bool) (cs : List Char) : List UInt8 × Bool :=
  match cs with
  | [] => ([], false)
  | '\\' :: 'c' :: _ => ([], true)
  | '\\' :: cs =>
    let skipped := if cs.head? = some '0' && !(digitsOf 8 (cs.drop 1)).isEmpty then 1 else 0
    match escape? builtIn (cs.drop skipped) with
    | some (b, size) =>
      let (rest, stops) := unescape builtIn (cs.drop (skipped + size))
      (b :: rest, stops)
    | none =>
      let (rest, stops) := unescape builtIn cs
      (92 :: rest, stops)
  | c :: cs =>
    let (rest, stops) := unescape builtIn cs
    (Text.Utf8.encodeChar c ++ rest, stops)
  termination_by cs.length
  decreasing_by all_goals simp only [List.length_drop, List.length_cons]; omega

def isEchoOption (arg : String) : Bool :=
  match arg.toList with
  | '-' :: c :: cs => (c :: cs).all fun c => c = 'n' || c = 'e' || c = 'E'
  | _ => false

def echoText (builtIn : Bool) (args : List String) : List UInt8 :=
  let options :=
    if builtIn then (args.take 1).filter (· = "-n") else args.takeWhile isEchoOption
  let letters := options.flatMap String.toList
  let bare := letters.contains 'n'
  let reads := builtIn || (letters.filter (· ≠ 'n')).getLast? = some 'e'
  let text := " ".intercalate (args.drop options.length)
  let (bytes, stops) := if reads then unescape builtIn text.toList else (octets text, false)
  bytes ++ if bare || stops then [] else [10]

inductive NumberProblem where
  | none
  | notANumber
  | notAllOfIt
  | outOfRange

def NumberProblem.message (builtIn : Bool) (arg : String) : NumberProblem → Option String
  | none => Option.none
  | notANumber => some (if builtIn then arg ++ ": expected numeric value"
      else "'" ++ arg ++ "': expected a numeric value")
  | notAllOfIt => some (if builtIn then arg ++ ": not completely converted"
      else "'" ++ arg ++ "': value not completely converted")
  | outOfRange => some ((if builtIn then arg else "'" ++ arg ++ "'") ++
      ": Numerical result out of range")

/-- The integer that an argument of a format is. A quote stands before an octet that is meant
itself. -/
def formatInteger (signed : Bool) (arg : String) : Int × NumberProblem :=
  match octets arg with
  | [] => (0, .none)
  | 39 :: b :: _ | 34 :: b :: _ => (b.toNat, .none)
  | _ =>
    match takeInteger true arg.toList with
    | (none, _) => (0, .notANumber)
    | (some n, rest) =>
      let held := if signed then clamp n
        else if n.natAbs < wordRange then bits n else wordRange - 1
      let fits := if signed then held = n else (bits n : Int) = held
      (held, if !rest.isEmpty then .notAllOfIt else if fits then .none else .outOfRange)

def formatFloat (arg : String) : Float × NumberProblem :=
  let cs := arg.toList.dropWhile isPadding
  let sizes := (List.range (cs.length + 1)).reverse
  match sizes.findSome? fun n => (Decimal.float? (cs.take n)).map fun x => (x, n) with
  | some (x, n) => (x, if n = cs.length then .none else .notAllOfIt)
  | none => (0, if arg = "" then .none else .notANumber)

structure Directive where
  slot : Log.Template.Slot
  size : Nat
  args : List String

def readAmount (cs : List Char) (args : List String) : Option Int × Nat × List String :=
  match cs with
  | '*' :: _ => (some (formatInteger true (args.headD "")).1, 1, args.drop 1)
  | cs =>
    let ds := digitsOf 10 cs
    (if ds.isEmpty then none else some (ofDigits 10 ds), ds.length, args)

def isSizeMark (c : Char) : Bool := ['h', 'j', 'L', 'l', 't', 'z'].contains c

def Directive.read? (builtIn : Bool) (cs : List Char) (args : List String) : Option Directive :=
  let marks := cs.takeWhile Log.Template.isMark
  let cs := cs.drop marks.length
  let (width, widthSize, args) := readAmount cs args
  let cs := cs.drop widthSize
  let (precision, precisionSize, args) := match cs with
    | '.' :: cs =>
      let (n, size, args) := readAmount cs args
      (some (n.getD 0).toNat, size + 1, args)
    | _ => (none, 0, args)
  let cs := cs.drop precisionSize
  let sizes := if builtIn then [] else cs.takeWhile isSizeMark
  (cs.drop sizes.length).head?.map fun letter =>
    ⟨⟨marks.contains '-' || width.any (· < 0), marks.contains '+', marks.contains ' ',
      marks.contains '#', marks.contains '0', width.map Int.natAbs, precision, letter⟩,
      marks.length + widthSize + precisionSize + sizes.length + 1, args⟩

/-- What writing a format once gives: octets, the arguments that are left, what there is to complain
of, and the code to end with if all output stops. -/
structure Printed where
  bytes : List UInt8
  rest : List String
  complaints : List String
  stop : Option Nat

def Printed.after (p : Printed) (bytes : List UInt8) (complaint : Option String) : Printed :=
  { p with bytes := bytes ++ p.bytes, complaints := complaint.toList ++ p.complaints }

def inSlot (slot : Log.Template.Slot) (bytes : List UInt8) : List UInt8 :=
  (slot.text (bytes.map fun b => Char.ofNat b.toNat)).map fun c => c.toNat.toUInt8

/-- What a slot makes of an argument: octets, a complaint, and whether all output stops. Nothing if
there is no such slot. -/
def Directive.write? (d : Directive) (builtIn : Bool) (arg : String) :
    Option (List UInt8 × Option String × Bool) :=
  let plain := fun (slot : Log.Template.Slot) (bytes : List UInt8) =>
    some (inSlot slot bytes, none, false)
  let number := fun (cs : List Char) (problem : NumberProblem) =>
    some (Text.Utf8.encode cs, problem.message builtIn arg, false)
  match d.slot.letter with
  | 's' => plain d.slot (octets arg)
  | 'c' => plain { d.slot with precision := none }
      (if arg = "" && builtIn then [0] else (octets arg).take 1)
  | 'b' =>
    let (bytes, stops) := unescape builtIn arg.toList
    let missing := List.replicate (d.slot.width.getD 0 - bytes.length) 32
    some (if d.slot.left then bytes ++ missing else missing ++ bytes, none, stops)
  | 'd' | 'i' =>
    let (n, problem) := formatInteger true arg
    number (d.slot.integer n) problem
  | 'u' | 'o' | 'x' | 'X' =>
    let (n, problem) := formatInteger false arg
    number (d.slot.integer n) problem
  | 'e' | 'E' | 'f' | 'F' | 'g' | 'G' =>
    let (x, problem) := formatFloat arg
    number (d.slot.float x) problem
  | _ => none

def printOnce (builtIn : Bool) (cs : List Char) (args : List String) : Printed :=
  match cs with
  | [] => ⟨[], args, [], none⟩
  | '\\' :: cs =>
    match escape? builtIn cs with
    | some (b, size) => (printOnce builtIn (cs.drop size) args).after [b] none
    | none => (printOnce builtIn cs args).after [92] none
  | '%' :: '%' :: cs => (printOnce builtIn cs args).after [37] none
  | '%' :: cs =>
    let broken := fun (text : String) => ⟨[], [], [text], some (if builtIn then 2 else 1)⟩
    let unknown := fun (size : Nat) => broken (String.ofList ('%' :: cs.take size) ++
      if builtIn then ": invalid directive" else ": invalid conversion specification")
    match Directive.read? builtIn cs args with
    | none => if builtIn then broken "missing format character" else unknown cs.length
    | some d =>
      match d.write? builtIn (d.args.headD "") with
      | none => unknown d.size
      | some (bytes, complaint, true) => ⟨bytes, [], complaint.toList, some 0⟩
      | some (bytes, complaint, false) =>
        (printOnce builtIn (cs.drop d.size) (d.args.drop 1)).after bytes complaint
  | c :: cs => (printOnce builtIn cs args).after (Text.Utf8.encodeChar c) none
  termination_by cs.length
  decreasing_by all_goals simp only [List.length_drop, List.length_cons]; omega

def printAll (builtIn : Bool) (format : List Char) (args : List String) : Nat → Printed
  | 0 => ⟨[], args, [], none⟩
  | fuel + 1 =>
    let once := printOnce builtIn format args
    if once.stop.isSome || once.rest.isEmpty || once.rest.length = args.length then once
    else
      let more := printAll builtIn format once.rest fuel
      { more with
        bytes := once.bytes ++ more.bytes
        complaints := once.complaints ++ more.complaints }

def printEffect (builtIn : Bool) (who : String) (args : List String) (w : World) : Effect :=
  match if args.head? = some "--" then args.drop 1 else args with
  | [] =>
    if builtIn then .complaint w 2 (who ++ ": usage: printf format [arg ...]")
    else .misuse w 1 who "missing operand"
  | format :: args =>
    let p := printAll builtIn format.toList args (args.length + 1)
    let warning := match p.rest with
      | extra :: _ =>
        if builtIn || p.stop.isSome then []
        else ["warning: ignoring excess arguments, starting with '" ++ extra ++ "'"]
      | [] => []
    let code := p.stop.getD (if p.complaints.isEmpty then 0 else 1)
    { Effect.complaining w code ((p.complaints ++ warning).map fun c => who ++ ": " ++ c) with
      written := (1, p.bytes) ::
        (p.complaints ++ warning).map fun c => (2, octets (who ++ ": " ++ c ++ "\n")) }

end Stepwise.Machine
