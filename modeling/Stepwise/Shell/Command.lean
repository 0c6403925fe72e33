import Stepwise.Shell.Token

/-!
Commands of shell scripts: what the tokens of a script say. A script is read line by line, so that
what stands before a line that cannot be read is still run; but a line with a word in it whose
commands cannot be read cannot be read itself.
-/
namespace Stepwise.Shell

inductive RedirectKind where
  | output
  | forced
  | append
  | input
  | both
  | copy
  | document
  deriving DecidableEq, Repr

structure Redirection where
  channel : Nat
  kind : RedirectKind
  target : Word

inductive Command where
  | simple (line : Nat) (settings : List (String × Word)) (words : List Word)
      (redirections : List Redirection)
  | sequence (first second : Command)
  | both (first second : Command)
  | either (first second : Command)
  | pipe (first second : Command)
  | negated (c : Command)
  | background (c : Command)
  | subshell (line : Nat) (c : Command) (redirections : List Redirection)
  | redirected (line : Nat) (c : Command) (redirections : List Redirection)
  | choice (condition yes no : Command)
  | loop (whileFails : Bool) (condition body : Command)
  | each (line : Nat) (name : String) (words : List Word) (body : Command)
  | select (line : Nat) (subject : Word) (clauses : List (List Word × Command))
  | function (name : String) (body : Command)
  | nothing

structure Input where
  tokens : Tokens
  lastLine : Nat

abbrev Reader := StateT Input (Except (Nat × Problem))

namespace Reader

def peek : Reader (Option Token) := do
  return (← get).tokens.head?.map Prod.snd

def line : Reader Nat := do
  let i ← get
  return i.tokens.head?.elim i.lastLine Prod.fst

def skip : Reader Unit := modify fun i => { i with tokens := i.tokens.drop 1 }

def skipLines : Reader Unit := modify fun i =>
  { i with tokens := i.tokens.dropWhile fun t => match t.2 with
      | .mark "\n" => true
      | _ => false }

def isAt (text : String) : Reader Bool := do
  match ← peek with
  | some (.mark t) => return t = text
  | _ => return false

end Reader

open Reader

def reserved : List String :=
  ["!", "case", "do", "done", "elif", "else", "esac", "fi", "for", "if", "in", "then", "until",
    "while", "\x7b", "\x7d"]

def closers : List String := ["then", "elif", "else", "fi", "do", "done", "esac", "\x7d"]

def specialNames : List String :=
  [".", ":", "break", "continue", "eval", "exec", "exit", "export", "readonly", "return", "set",
    "shift", "times", "trap", "unset"]

def reserved? : Option Token → Option String
  | some (.word w) => do
    let text := String.ofList (← plainText w)
    if reserved.contains text then some text else none
  | _ => none

def inQuotes (text : String) : String := "\"" ++ text ++ "\""

def shown : Option Token → String
  | none => "end of file"
  | some (.mark "\n") => "newline"
  | some (.mark text) => inQuotes text
  | some (.redirect _ _) | some (.document _ _) => "redirection"
  | some (.word w) =>
    match reserved? (some (.word w)) with
    | some text => inQuotes text
    | none => "word"
  | some (.broken _) | some (.lines _) => ""

def refuseFor {α : Type} (reason : Option Token → Problem) : Reader α := do
  let problem := match ← peek with
    | some (.broken problem) => problem
    | token => reason token
  throw (← line, problem)

def refuse {α : Type} (expected : Option String) : Reader α :=
  refuseFor fun token => .unexpected (shown token) expected

def expect (text : String) : Reader Unit := do
  if reserved? (← peek) = some text then skip else refuse (some (inQuotes text))

def expectMark (text : String) : Reader Unit := do
  if ← isAt text then skip else refuse (some (inQuotes text))

def redirectKind (text : String) : RedirectKind × Nat :=
  match text with
  | ">>" => (.append, 1)
  | ">|" => (.forced, 1)
  | "<" => (.input, 0)
  | "<>" => (.both, 0)
  | ">&" => (.copy, 1)
  | "<&" => (.copy, 0)
  | _ => (.output, 1)

def readRedirection : Reader (Option Redirection) := do
  match ← peek with
  | some (.document channel body) =>
    skip
    return some ⟨channel.getD 0, .document, body⟩
  | some (.redirect channel text) =>
    skip
    match ← peek with
    | some (.word w) =>
      skip
      let (kind, usual) := redirectKind text
      return some ⟨channel.getD usual, kind, w⟩
    | _ => refuse none
  | _ => return none

def readRedirections : Nat → Reader (List Redirection)
  | 0 => return []
  | fuel + 1 => do
    match ← readRedirection with
    | some r => return r :: (← readRedirections fuel)
    | none => return []

def assignment? (w : Word) : Option (String × Word) :=
  let letters := w.map fun p => match p with
    | .text [c] false => some c
    | _ => none
  let name := (letters.takeWhile fun l => l.any inName).filterMap id
  if name.head?.any beginsName && letters[name.length]? = some (some '=') then
    some (String.ofList name, w.drop (name.length + 1))
  else none

structure Parts where
  settings : List (String × Word)
  words : List Word
  redirections : List Redirection

/-- Reads the parts of a simple command. Variables are set before the first word only, and a
parenthesis after it is no part. -/
def readParts (found : Bool) : Nat → Reader Parts
  | 0 => return ⟨[], [], []⟩
  | fuel + 1 => do
    match ← readRedirection with
    | some r =>
      let rest ← readParts found fuel
      return { rest with redirections := r :: rest.redirections }
    | none =>
      match ← peek with
      | some (.word w) =>
        skip
        match found, assignment? w with
        | false, some given =>
          let rest ← readParts false fuel
          return { rest with settings := given :: rest.settings }
        | _, _ =>
          let rest ← readParts true fuel
          return { rest with words := w :: rest.words }
      | _ => return ⟨[], [], []⟩

def readWords : Nat → Reader (List Word)
  | 0 => return []
  | fuel + 1 => do
    match ← peek with
    | some (.word w) =>
      skip
      return w :: (← readWords fuel)
    | _ => return []

/-- Reads the patterns before a parenthesis. What is no word is a pattern that fits nothing. -/
def readPatterns : Nat → Reader (List Word)
  | 0 => return []
  | fuel + 1 => do
    let pattern := match ← peek with
      | some (.word w) => [w]
      | _ => []
    match ← peek with
    | some (.broken _) => refuse none
    | _ => skip
    if ← isAt "|" then
      skip
      return pattern ++ (← readPatterns fuel)
    else
      expectMark ")"
      return pattern

def readSeparator : Reader (Option Bool) := do
  match ← peek with
  | some (.mark text) =>
    if [";", "&", "\n"].contains text then
      skip
      return some (text ≠ "&")
    else return none
  | _ => return none

def Command.waitedFor (c : Command) : Option Bool → Command
  | some false => .background c
  | _ => c

def atEnd : Reader Bool := do
  match ← peek with
  | none => return true
  | some (.mark text) => return text = ")" || text = ";;"
  | token => return (reserved? token).any closers.contains

mutual

def readList (mayBeEmpty : Bool) (fuel : Nat) : Reader Command :=
  match fuel with
  | 0 => refuse none
  | fuel + 1 => do
    skipLines
    if (← peek).isNone || (mayBeEmpty && (← atEnd)) then return .nothing
    let c ← readChain fuel
    let separator ← readSeparator
    let c := c.waitedFor separator
    skipLines
    if separator.isNone || (← atEnd) then return c
    else return .sequence c (← readList true fuel)
  termination_by structural fuel

def readChain (fuel : Nat) : Reader Command :=
  match fuel with
  | 0 => refuse none
  | fuel + 1 => do
    let c ← readPipe fuel
    readChainAfter c fuel
  termination_by structural fuel

def readChainAfter (c : Command) (fuel : Nat) : Reader Command :=
  match fuel with
  | 0 => refuse none
  | fuel + 1 => do
    if ← isAt "&&" then
      skip
      skipLines
      let d ← readPipe fuel
      readChainAfter (.both c d) fuel
    else if ← isAt "||" then
      skip
      skipLines
      let d ← readPipe fuel
      readChainAfter (.either c d) fuel
    else return c
  termination_by structural fuel

def readPipe (fuel : Nat) : Reader Command :=
  match fuel with
  | 0 => refuse none
  | fuel + 1 => do
    if reserved? (← peek) = some "!" then
      skip
      let c ← readCommand fuel
      return .negated (← readPipeAfter c fuel)
    else
      let c ← readCommand fuel
      readPipeAfter c fuel
  termination_by structural fuel

def readPipeAfter (c : Command) (fuel : Nat) : Reader Command :=
  match fuel with
  | 0 => refuse none
  | fuel + 1 => do
    if ← isAt "|" then
      skip
      skipLines
      let d ← readCommand fuel
      return .pipe c (← readPipeAfter d fuel)
    else return c
  termination_by structural fuel

def readCommand (fuel : Nat) : Reader Command :=
  match fuel with
  | 0 => refuse none
  | fuel + 1 => do
    let here ← line
    let compound := fun (c : Command) => do
      match ← readRedirections fuel with
      | [] => return c
      | redirections => return .redirected here c redirections
    match reserved? (← peek), ← peek with
    | some "if", _ =>
      skip
      let c ← readChoice fuel
      compound c
    | some "while", _ =>
      skip
      let condition ← readList false fuel
      let body ← readBody fuel
      compound (.loop false condition body)
    | some "until", _ =>
      skip
      let condition ← readList false fuel
      let body ← readBody fuel
      compound (.loop true condition body)
    | some "for", _ =>
      skip
      let c ← readEach here fuel
      compound c
    | some "case", _ =>
      skip
      let c ← readSelect here fuel
      compound c
    | some "\x7b", _ =>
      skip
      let c ← readList false fuel
      expect "\x7d"
      compound c
    | some _, _ => refuse none
    | none, some (.mark "(") =>
      skip
      let c ← readList false fuel
      expectMark ")"
      return .subshell here c (← readRedirections fuel)
    | none, some (.word _) | none, some (.redirect _ _) | none, some (.document _ _) =>
      let parts ← readParts false fuel
      match parts, ← isAt "(" with
      | ⟨[], [name], []⟩, true =>
        skip
        expectMark ")"
        readFunction name fuel
      | _, _ => return .simple here parts.settings parts.words parts.redirections
    | none, _ => refuse none
  termination_by structural fuel

def readFunction (name : Word) (fuel : Nat) : Reader Command :=
  match fuel with
  | 0 => refuse none
  | fuel + 1 => do
    let text := (plainText name).getD []
    if !isName text || specialNames.contains (String.ofList text) then
      refuseFor fun _ => .badFunctionName
    skipLines
    return .function (String.ofList text) (← readCommand fuel)
  termination_by structural fuel

def readChoice (fuel : Nat) : Reader Command :=
  match fuel with
  | 0 => refuse none
  | fuel + 1 => do
    let condition ← readList false fuel
    expect "then"
    let yes ← readList false fuel
    match reserved? (← peek) with
    | some "elif" =>
      skip
      return .choice condition yes (← readChoice fuel)
    | some "else" =>
      skip
      let no ← readList false fuel
      expect "fi"
      return .choice condition yes no
    | _ =>
      expect "fi"
      return .choice condition yes .nothing
  termination_by structural fuel

def readBody (fuel : Nat) : Reader Command :=
  match fuel with
  | 0 => refuse none
  | fuel + 1 => do
    expect "do"
    let body ← readList false fuel
    expect "done"
    return body
  termination_by structural fuel

def readEach (here : Nat) (fuel : Nat) : Reader Command :=
  match fuel with
  | 0 => refuse none
  | fuel + 1 => do
    let name ← match ← peek with
      | some (.word w) =>
        if (plainText w).any isName then
          skip
          pure (String.ofList (wordText w))
        else refuseFor fun _ => .badLoopName
      | _ => refuseFor fun _ => .badLoopName
    skipLines
    if reserved? (← peek) = some "in" then
      skip
      let words ← readWords fuel
      if !((← isAt ";") || (← isAt "\n")) then refuse none
      skip
      skipLines
      let body ← readBody fuel
      return .each here name words body
    else
      if ← isAt ";" then skip
      skipLines
      let body ← readBody fuel
      return .each here name [[.text [] true, .parameter "@" true]] body
  termination_by structural fuel

def readSelect (here : Nat) (fuel : Nat) : Reader Command :=
  match fuel with
  | 0 => refuse none
  | fuel + 1 => do
    match ← peek with
    | some (.word subject) =>
      skip
      skipLines
      expect "in"
      let clauses ← readClauses fuel
      return .select here subject clauses
    | _ => refuse (some "word")
  termination_by structural fuel

def readClauses (fuel : Nat) : Reader (List (List Word × Command)) :=
  match fuel with
  | 0 => refuse none
  | fuel + 1 => do
    skipLines
    if reserved? (← peek) = some "esac" then
      skip
      return []
    if ← isAt "(" then skip
    let patterns ← readPatterns fuel
    let body ← readList true fuel
    skipLines
    if reserved? (← peek) = some "esac" then
      skip
      return [(patterns, body)]
    expectMark ";;"
    return (patterns, body) :: (← readClauses fuel)
  termination_by structural fuel

end

def readLine : Nat → Reader Command
  | 0 => refuse none
  | fuel + 1 => do
    let c ← readChain fuel
    let ends := fun (_ : Unit) => do return (← peek).isNone || (← isAt "\n")
    if ← ends () then
      skip
      return c
    else
      let separator ← readSeparator
      if separator.isNone then refuse none
      let c := c.waitedFor separator
      if ← ends () then
        skip
        return c
      else return .sequence c (← readLine fuel)

def readingFuel (ts : Tokens) : Nat := 8 * ts.length + 16

def readWhole (ts : Tokens) : Except (Nat × Problem) Command :=
  let reader : Reader Command := do
    let c ← readList true (readingFuel ts)
    if (← peek).isNone || (← isAt ")") then return c else refuse (some "\")\"")
  Prod.fst <$> reader.run ⟨ts, ts.getLast?.elim 1 Prod.fst⟩

mutual

def pieceProblem? (check : Tokens → Option (Nat × Problem)) : Piece → Option (Nat × Problem)
  | .output script _ => check script
  | .choice _ _ _ ps _ | .trimmed _ _ _ ps _ | .calculation ps _ => wordProblem? check ps
  | .text _ _ | .parameter _ _ | .length _ _ | .invalid => none

def wordProblem? (check : Tokens → Option (Nat × Problem)) : List Piece → Option (Nat × Problem)
  | [] => none
  | p :: ps => pieceProblem? check p <|> wordProblem? check ps

end

def soundPart (check : Tokens → Option (Nat × Problem)) : Tokens → Tokens
  | [] => []
  | (line, token) :: rest =>
    let problem := match token with
      | .word w | .document _ w => wordProblem? check w
      | _ => none
    match problem with
    | some (line, problem) => [(line, .broken problem)]
    | none => (line, token) :: soundPart check rest

def nestedProblem? : Nat → Tokens → Option (Nat × Problem)
  | 0, _ => none
  | depth + 1, ts =>
    match readWhole (soundPart (nestedProblem? depth) ts) with
    | .error problem => some problem
    | .ok _ => none

def readLines (size : Nat) : Nat → Input → List Command × Option (Nat × Problem)
  | 0, _ => ([], none)
  | fuel + 1, input =>
    let input := ((skipLines.run input).toOption.map Prod.snd).getD input
    if input.tokens.isEmpty then ([], none)
    else match (readLine size).run input with
      | .ok (c, rest) =>
        let (commands, problem) := readLines size fuel rest
        (c :: commands, problem)
      | .error problem => ([], some problem)

def readScript (script : List Char) : List Command × Option (Nat × Problem) :=
  let found := soundPart (nestedProblem? (script.length + 1)) (tokens script)
  let size := readingFuel found
  readLines size size ⟨found, 1 + lineCount script⟩

end Stepwise.Shell
