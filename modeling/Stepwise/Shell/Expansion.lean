import Stepwise.Shell.Arithmetic
import Stepwise.Shell.Pattern
import Stepwise.Shell.State

/-!
What words mean in a state. A word gives any number of fields: quoted parts stay together, and what
comes unquoted from a parameter, a calculation or a command is split. A field that is a pattern
gives the files whose names it fits, if there are any.
-/
namespace Stepwise.Shell

inductive Mark where
  | letter (l : Letter) (splits : Bool)
  | kept
  | between

abbrev Runner := Tokens → State → List Char × State

def marksOf (quoted splits : Bool) (cs : List Char) : List Mark :=
  (if quoted then [.kept] else []) ++ cs.map fun c => .letter ⟨c, quoted⟩ splits

def valueMarks (quoted : Bool) (cs : List Char) : List Mark := marksOf quoted (!quoted) cs

def argumentMarks (quoted : Bool) : List String → List Mark
  | [] => []
  | [a] => valueMarks quoted a.toList
  | a :: rest => valueMarks quoted a.toList ++ .between :: argumentMarks quoted rest

def lettersOf (ms : List Mark) : List Letter :=
  ms.filterMap fun m => match m with
    | .letter l _ => some l
    | .kept => none
    | .between => some ⟨' ', true⟩

def charsOf (ls : List Letter) : List Char := ls.map Letter.char

def textOf (ms : List Mark) : List Char := charsOf (lettersOf ms)

def trimLines (cs : List Char) : List Char := (cs.reverse.dropWhile (· = '\n')).reverse

def State.separators (st : State) : List Char := ((st.env.get? "IFS").getD " \t\n").toList

def State.value (st : State) (name : String) : Except String String :=
  match st.parameter? name with
  | some value => .ok value
  | none =>
    if !st.has 'u' || name = "@" || name = "*" then .ok ""
    else .error (name ++ ": parameter not set")

def State.parameterMarks (st : State) (name : String) (quoted : Bool) :
    Except String (List Mark) :=
  match name, quoted with
  | "@", quoted | "*", quoted =>
    if name = "*" && quoted then
      let separator := String.ofList (st.separators.take 1)
      .ok (valueMarks true (separator.intercalate st.args).toList)
    else .ok (argumentMarks quoted st.args)
  | name, quoted => do return valueMarks quoted (← st.value name).toList

mutual

def expandPiece (run : Runner) (inOperand : Bool) (st : State) :
    Piece → Except String (List Mark × State)
  | .text cs quoted => .ok (marksOf quoted (inOperand && !quoted) cs, st)
  | .parameter name quoted => do return (← st.parameterMarks name quoted, st)
  | .length name quoted => do
    let value ← st.value name
    return (valueMarks quoted (toString value.utf8ByteSize).toList, st)
  | .choice name kind emptyIsMissing operand quoted =>
    let value := (st.parameter? name).filter fun v => !(emptyIsMissing && v = "")
    match kind, value with
    | .replacement, none => .ok (valueMarks quoted [], st)
    | .replacement, some _ => expandPieces run (!quoted) st operand
    | _, some _ => do return (← st.parameterMarks name quoted, st)
    | .fallback, none => expandPieces run (!quoted) st operand
    | .assignment, none => do
      let (ms, st) ← expandPieces run (!quoted) st operand
      let value := textOf ms
      if !isName name.toList then throw (name ++ ": bad variable name")
      return (valueMarks quoted value, ← st.assign name (String.ofList value))
    | .complaint, none => do
      let (ms, _) ← expandPieces run (!quoted) st operand
      let usual := "parameter not set" ++ if emptyIsMissing then " or null" else ""
      throw (name ++ ": " ++ if operand.isEmpty then usual else String.ofList (textOf ms))
  | .trimmed name atEnd longest operand quoted => do
    let value ← st.value name
    let (ms, st) ← expandPieces run (!quoted) st operand
    return (valueMarks quoted (trim atEnd longest (pattern (lettersOf ms)) value.toList), st)
  | .calculation e quoted => do
    let (ms, st) ← expandPieces run false st e
    let (n, env) ← Arithmetic.calculate st.env (textOf ms)
    return (valueMarks quoted (toString n).toList, { st with env := env })
  | .output script quoted =>
    let (written, st) := run script st
    .ok (valueMarks quoted (trimLines written), st)
  | .invalid => throw "Bad substitution"

def expandPieces (run : Runner) (inOperand : Bool) (st : State) :
    List Piece → Except String (List Mark × State)
  | [] => .ok ([], st)
  | p :: ps => do
    let (ms, st) ← expandPiece run inOperand st p
    let (rest, st) ← expandPieces run inOperand st ps
    return (ms ++ rest, st)

end

/-- The fields that marks make, given the separators, the letters of the field that is begun, the
last one first, and whether blanks have ended the field before, so that a separator after them ends
none. -/
def fieldsFrom (separators : List Char) (begun : Option (List Letter)) (ended : Bool) :
    List Mark → List (List Letter)
  | [] => (begun.map List.reverse).toList
  | .kept :: ms => fieldsFrom separators (some (begun.getD [])) false ms
  | .between :: ms => (begun.map List.reverse).toList ++ fieldsFrom separators none false ms
  | .letter l splits :: ms =>
    if splits && separators.contains l.char then
      if [' ', '\t', '\n'].contains l.char then
        (begun.map List.reverse).toList ++ fieldsFrom separators none (ended || begun.isSome) ms
      else if ended && begun.isNone then fieldsFrom separators none false ms
      else (begun.getD []).reverse :: fieldsFrom separators none false ms
    else fieldsFrom separators (some (l :: begun.getD [])) false ms

def partsOfPath (ls : List Letter) : List (List Letter) :=
  ls.foldr (fun l acc =>
    if l.char = '/' then [] :: acc else (l :: acc.headD []) :: acc.drop 1) [[]]

def namesFitting (w : World) (directory : String) (ls : List Letter) : List String :=
  let hidden := ls.head?.any fun l => l.char = '.'
  match w.find (if directory = "" then "." else directory) with
  | .error _ => []
  | .ok place =>
    let names := if hidden then "." :: ".." :: w.namesIn place else w.namesIn place
    names.filter fun n => (hidden || !n.startsWith ".") && fits (pattern ls) n.toList

def pathsFitting (w : World) (done : String) : List (List Letter) → List String
  | [] => [done]
  | ls :: rest =>
    let slash := if rest.isEmpty then "" else "/"
    if isPattern ls then
      (namesFitting w done ls).flatMap fun n =>
        if rest.isEmpty || w.isDirectory (done ++ n) then pathsFitting w (done ++ n ++ slash) rest
        else []
    else
      let next := done ++ String.ofList (charsOf ls) ++ slash
      if !rest.isEmpty || (w.get next).toOption.isSome then pathsFitting w next rest else []

def State.paths (st : State) (ls : List Letter) : List String :=
  let itself := String.ofList (charsOf ls)
  if st.has 'f' || !isPattern ls then [itself]
  else
    let found := (pathsFitting st.world "" (partsOfPath ls)).mergeSort fun a b => a ≤ b
    if found.isEmpty then [itself] else found

def State.atHome (st : State) (w : Word) : Word :=
  match w with
  | .text ['~'] false :: rest =>
    let user := rest.takeWhile fun p => match p with
      | .text [c] false => c ≠ '/'
      | _ => false
    let ends := match rest.drop user.length with
      | [] | .text ['/'] false :: _ => true
      | _ => false
    let home := match wordText user with
      | [] => st.env.get? "HOME"
      | ['r', 'o', 'o', 't'] => some "/root"
      | _ => none
    match ends, home with
    | true, some home => .text home.toList true :: rest.drop user.length
    | _, _ => w
  | w => w

def isAllArguments : Word → Bool
  | [.text [] true, .parameter "@" true] => true
  | _ => false

def expandWord (run : Runner) (st : State) (w : Word) : Except String (List String × State) := do
  if isAllArguments w && st.args.isEmpty then return ([], st)
  let (ms, st) ← expandPieces run false st (st.atHome w)
  return ((fieldsFrom st.separators none false ms).flatMap st.paths, st)

def expandWords (run : Runner) (st : State) : List Word → Except String (List String × State)
  | [] => .ok ([], st)
  | w :: ws => do
    let (fields, st) ← expandWord run st w
    let (rest, st) ← expandWords run st ws
    return (fields ++ rest, st)

def expandLetters (run : Runner) (st : State) (w : Word) :
    Except String (List Letter × State) := do
  let (ms, st) ← expandPieces run false st (st.atHome w)
  return (lettersOf ms, st)

def expandText (run : Runner) (st : State) (w : Word) : Except String (String × State) := do
  let (ls, st) ← expandLetters run st w
  return (String.ofList (charsOf ls), st)

end Stepwise.Shell
