import Stepwise.ConfigurationError
import Stepwise.Definition.Load
import Stepwise.Env
import Stepwise.Log
import Stepwise.Text.Blank

/-!
Files of variables. A file has one binding on a line: a name, which the word `export` may precede,
an equal sign and a value, bare or between quotes. Values between quotes may run over lines and have
escapes. A comment may follow. A line that is no binding is passed over with a warning. Names in
braces after a dollar sign stand for the values of earlier bindings or of the environment at hand.
-/
namespace Stepwise.EnvFile

inductive Statement where
  | binding (name : String) (value : Option String)
  | unreadable (line : Nat)
  deriving DecidableEq, Repr

def isNewline (c : Char) : Bool := c = '\n' || c = '\r'

def isGap (c : Char) : Bool := Text.isBlank c && !isNewline c

def skipExport (cs : List Char) : List Char :=
  let word := "export".toList
  if word.isPrefixOf cs && (cs.drop word.length).head?.any isGap then
    (cs.drop word.length).dropWhile isGap
  else cs

/-- A name, and what follows it. It may stand between quotes, or be missing before a comment. On
failure, what is left. -/
def readName (cs : List Char) : Except (List Char) (Option (List Char) × List Char) :=
  match cs with
  | '#' :: _ => .ok (none, cs)
  | '\x27' :: rest =>
    let name := rest.takeWhile (· ≠ '\x27')
    if name.isEmpty || name.length = rest.length then .error cs
    else .ok (some name, rest.drop (name.length + 1))
  | cs =>
    let name := cs.takeWhile fun c => !(c = '=' || c = '#' || Text.isBlank c)
    if name.isEmpty then .error cs else .ok (some name, cs.drop name.length)

/-- The part of a quoted value before the closing quote, and what follows that. A quote after a
backslash does not close, nor does anything count that stands there. -/
def closeQuote (q : Char) : List Char → Option (List Char × List Char)
  | [] => none
  | '\\' :: [] => none
  | '\\' :: d :: cs => (fun p => ('\\' :: d :: p.1, p.2)) <$> closeQuote q cs
  | c :: cs => if c = q then some ([], cs) else (fun p => (c :: p.1, p.2)) <$> closeQuote q cs

def escapes (q : Char) : List (Char × Char) :=
  [('\\', '\\'), ('\x27', '\x27')] ++
    if q = '\x22' then
      [('\x22', '\x22'), ('a', '\x07'), ('b', '\x08'), ('f', '\x0c'), ('n', '\n'), ('r', '\r'),
        ('t', '\t'), ('v', '\x0b')]
    else []

def unescape (q : Char) : List Char → List Char
  | '\\' :: c :: cs =>
    match (escapes q).lookup c with
    | some d => d :: unescape q cs
    | none => '\\' :: unescape q (c :: cs)
  | c :: cs => c :: unescape q cs
  | [] => []

def cutComment : List Char → List Char
  | [] => []
  | c :: cs =>
    if Text.isBlank c && (cs.dropWhile Text.isBlank).head? = some '#' then []
    else c :: cutComment cs

def readValue (cs : List Char) : Except (List Char) (List Char × List Char) :=
  match cs with
  | [] => .ok ([], [])
  | c :: rest =>
    if c = '\x27' || c = '\x22' then
      match closeQuote c rest with
      | some (value, after) => .ok (unescape c value, after)
      | none => .error cs
    else if isNewline c then .ok ([], cs)
    else
      let line := cs.takeWhile (!isNewline ·)
      .ok (Text.trimRight (cutComment line), cs.drop line.length)

def endLine (cs : List Char) : Except (List Char) (List Char) :=
  let after := cs.dropWhile isGap
  let rest := if after.head? = some '#' then after.dropWhile (!isNewline ·) else cs
  match rest.dropWhile isGap with
  | [] => .ok []
  | '\r' :: '\n' :: cs => .ok cs
  | c :: cs => if isNewline c then .ok cs else .error rest

/-- A binding, and what follows its line. A gap and a comment after the equal sign leave the value
empty. -/
def readBinding (cs : List Char) : Except (List Char) (Option Statement × List Char) := do
  let (name, cs) ← readName (skipExport cs)
  let cs := cs.dropWhile isGap
  let (value, cs) ← match cs with
    | '=' :: rest => do
      let after := rest.dropWhile isGap
      let (value, cs) ←
        if rest.head?.any isGap && after.head? = some '#' then pure ([], after)
        else readValue after
      pure (some (String.ofList value), cs)
    | cs => pure (none, cs)
  let cs ← endLine cs
  return (name.map fun n => .binding (String.ofList n) value, cs)

def skipLine (cs : List Char) : List Char :=
  match cs.dropWhile (!isNewline ·) with
  | '\r' :: '\n' :: rest => rest
  | _ :: rest => rest
  | [] => []

def newlines (cs : List Char) : Nat := (Text.unifyNewlines cs).count '\n'

/-- The statements from a line on, in a number of rounds that suffices because each consumes
something. -/
def statementsFrom (line : Nat) : Nat → List Char → List Statement
  | 0, _ => []
  | fuel + 1, cs =>
    if cs.isEmpty then []
    else
      let start := cs.dropWhile Text.isBlank
      if start.isEmpty then []
      else
        let (statement, rest) := match readBinding start with
          | .ok (statement, rest) => (statement, rest)
          | .error left => (some (.unreadable line), skipLine left)
        let consumed := cs.take (cs.length - rest.length)
        statement.toList ++ statementsFrom (line + newlines consumed) fuel rest

def statements (cs : List Char) : List Statement := statementsFrom 1 cs.length cs

/-- A part of a value: a text, or a name that stands for a value, with what stands for it if there
is none. -/
inductive Piece where
  | char (c : Char)
  | reference (name : List Char) (fallback : Option (List Char))

def readVariable (cs : List Char) : Option (Piece × List Char) :=
  let name := cs.takeWhile fun c => !(c = '\x7d' || c = ':')
  match cs.drop name.length with
  | '\x7d' :: rest => some (.reference name none, rest)
  | ':' :: '-' :: rest =>
    let fallback := rest.takeWhile (· ≠ '\x7d')
    match rest.drop fallback.length with
    | _ :: after => some (.reference name (some fallback), after)
    | [] => none
  | _ => none

def pieces : Nat → List Char → List Piece
  | _, [] => []
  | 0, _ => []
  | fuel + 1, c :: cs =>
    match c, cs with
    | '$', '\x7b' :: rest =>
      match readVariable rest with
      | some (piece, after) => piece :: pieces fuel after
      | none => .char c :: pieces fuel cs
    | _, _ => .char c :: pieces fuel cs

/-- Variables with their values, in order; a variable may be declared without one. -/
abbrev Bindings := List (String × Option String)

def Bindings.set (name : String) (value : Option String) : Bindings → Bindings
  | [] => [(name, value)]
  | (n, v) :: rest =>
    if n = name then (n, value) :: rest else (n, v) :: Bindings.set name value rest

/-- The text that a piece stands for. A variable that is declared without a value is empty, and one
that is not declared has the value of the environment at hand. -/
def Piece.resolve (environ : Env) (bindings : Bindings) : Piece → List Char
  | .char c => [c]
  | .reference name fallback =>
    match bindings.lookup (String.ofList name) with
    | some value => (value.getD "").toList
    | none =>
      match environ.get? (String.ofList name) with
      | some value => value.toList
      | none => fallback.getD []

def expand (environ : Env) (bindings : Bindings) (value : String) : String :=
  String.ofList ((pieces value.length value.toList).flatMap (Piece.resolve environ bindings))

def bind (environ : Env) (all : List Statement) : Bindings :=
  all.foldl (fun bindings s =>
    match s with
    | .binding name value => bindings.set name (value.map (expand environ bindings))
    | .unreadable _ => bindings) []

def toEnv (bindings : Bindings) : Env :=
  Env.ofPairs (bindings.filterMap fun b => b.2.map fun v => (b.1, v))

def warning (line : Nat) : LogRecord :=
  ⟨Log.envFiles, .warning,
    "python-dotenv could not parse statement starting at line " ++ toString line⟩

def warnings (all : List Statement) : List LogRecord :=
  all.filterMap fun s => match s with
    | .unreadable line => some (warning line)
    | .binding .. => none

def loadedRecord (path : Path) (env : Env) : LogRecord :=
  ⟨Log.config, .debug,
    "Loaded " ++ toString env.pairs.length ++ " variable(s) from " ++ path.toString⟩

inductive Failure where
  | rejected (error : ConfigurationError)
  | fault (fault : Fault)

def withoutMark (cs : List Char) : List Char :=
  match cs with
  | '\ufeff' :: rest => rest
  | cs => cs

def load (w : World) (environ : Env) (path : Path) : Except Failure (Env × List LogRecord) :=
  if (nameFault? path.toString).isSome then .error (.rejected (.envFileMissing path))
  else match w.isFile path.toString with
    | .error e => .error (.fault (.system (e.message path.toString)))
    | .ok false => .error (.rejected (.envFileMissing path))
    | .ok true =>
      match w.read path.toString with
      | .error e => .error (.fault (.system (e.message path.toString)))
      | .ok bytes =>
        match Text.Utf8.decode bytes with
        | .error e => .error (.fault (.undecodable e))
        | .ok cs =>
          let all := statements (Text.unifyNewlines (withoutMark cs))
          let env := toEnv (bind environ all)
          .ok (env, warnings all ++ [loadedRecord path env])

end Stepwise.EnvFile
