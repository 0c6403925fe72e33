/-!
Tokens of shell scripts. A word is a row of pieces: texts, parameters, calculations and the output
of commands, each quoted or not. The commands in a word are tokens themselves, so words and scripts
are read together. A script always has tokens; where its text cannot be read, the last one says why.
-/
namespace Stepwise.Shell

inductive Problem where
  | openQuote
  | openBrace
  | openParentheses
  | openBackquote
  | badLoopName
  | badFunctionName
  /-- Something stands where it cannot stand, or where something else is expected. -/
  | unexpected (shown : String) (expected : Option String)
  deriving DecidableEq, Repr

def Problem.text : Problem → String
  | openQuote => "Unterminated quoted string"
  | openBrace => "Missing '\x7d'"
  | openParentheses => "Missing '))'"
  | openBackquote => "EOF in backquote substitution"
  | badLoopName => "Bad for loop variable"
  | badFunctionName => "Bad function name"
  | unexpected shown none => shown ++ " unexpected"
  | unexpected shown (some other) => shown ++ " unexpected (expecting " ++ other ++ ")"

def Problem.message (p : Problem) : String := "Syntax error: " ++ p.text

inductive Alternative where
  | fallback
  | assignment
  | replacement
  | complaint
  deriving DecidableEq, Repr

mutual

inductive Piece where
  | text (value : List Char) (quoted : Bool)
  | parameter (name : String) (quoted : Bool)
  | length (name : String) (quoted : Bool)
  | choice (name : String) (kind : Alternative) (emptyIsMissing : Bool) (operand : List Piece)
      (quoted : Bool)
  | trimmed (name : String) (atEnd longest : Bool) (pattern : List Piece) (quoted : Bool)
  | calculation (expression : List Piece) (quoted : Bool)
  | output (script : List (Nat × Token)) (quoted : Bool)
  | invalid

inductive Token where
  | word (w : List Piece)
  | mark (text : String)
  | redirect (channel : Option Nat) (text : String)
  | document (channel : Option Nat) (body : List Piece)
  | lines (body : List Piece)
  | broken (problem : Problem)

end

abbrev Word := List Piece

abbrev Tokens := List (Nat × Token)

def endsWord (c : Char) : Bool :=
  [' ', '\t', '\n', ';', '&', '|', '(', ')', '<', '>'].contains c

def beginsName (c : Char) : Bool := c.isAlpha || c = '_'

def inName (c : Char) : Bool := c.isAlphanum || c = '_'

def isName (cs : List Char) : Bool := cs.head?.any beginsName && cs.all inName

def isSpecial (c : Char) : Bool := ['?', '$', '#', '@', '*', '!', '-'].contains c

/-- The name at the head of a text, and what follows. Digits that stand in no braces name no more
than one parameter each. -/
def takeName (braced : Bool) : List Char → List Char × List Char
  | [] => ([], [])
  | c :: cs =>
    if beginsName c then (c :: cs.takeWhile inName, cs.dropWhile inName)
    else if c.isDigit && braced then (c :: cs.takeWhile Char.isDigit, cs.dropWhile Char.isDigit)
    else if c.isDigit || isSpecial c then ([c], cs)
    else ([], c :: cs)

def Alternative.ofChar? : Char → Option Alternative
  | '-' => some .fallback
  | '=' => some .assignment
  | '+' => some .replacement
  | '?' => some .complaint
  | _ => none

/-- What stands in braces before an operand: the piece that it makes with one, and whether the
operand is a pattern. -/
structure Opening where
  build : List Piece → Piece
  isPattern : Bool

def takeOpening (quoted : Bool) (name rest : List Char) : Opening × List Char :=
  let shown := String.ofList name
  let bad : Opening := ⟨fun _ => .invalid, false⟩
  let choose := fun (emptyIsMissing : Bool) (cs : List Char) => match cs with
    | c :: operand => (Alternative.ofChar? c).map fun kind =>
        ((⟨fun ps => .choice shown kind emptyIsMissing ps quoted, false⟩ : Opening), operand)
    | [] => none
  let trim := fun (atEnd longest : Bool) (cs : List Char) =>
    ((⟨fun ps => .trimmed shown atEnd longest ps quoted, true⟩ : Opening), cs)
  if name.isEmpty then (bad, rest)
  else match rest with
    | '\x7d' :: _ | [] => (⟨fun _ => .parameter shown quoted, false⟩, rest)
    | '#' :: '#' :: cs => trim false true cs
    | '#' :: cs => trim false false cs
    | '%' :: '%' :: cs => trim true true cs
    | '%' :: cs => trim true false cs
    | ':' :: cs => (choose true cs).getD (bad, rest)
    | cs => (choose false cs).getD (bad, rest)

/-- What stands in braces before an operand, and what follows. A number sign before a parameter asks
for its length. -/
def readOpening (quoted : Bool) (cs : List Char) : Opening × List Char :=
  let plain := takeName true cs
  let whole := fun (_ : Unit) => takeOpening quoted plain.1 plain.2
  match cs with
  | '#' :: cs =>
    match takeName true cs with
    | ([], _) => whole ()
    | (name, rest) =>
      let closed := rest.head? = some '\x7d'
      if closed then (⟨fun _ => .length (String.ofList name) quoted, false⟩, rest)
      else if name.head?.any isSpecial then whole ()
      else (⟨fun _ => .invalid, false⟩, rest)
  | _ => whole ()

/-- Where pieces stand, which says where they end: in a word, in double quotes, in braces, which may
stand in double quotes themselves, in a calculation within parentheses of some depth, or in a
document. -/
inductive Place where
  | bare
  | quotes
  | braces (quoted : Bool)
  | calculation (depth : Nat)
  | document
  deriving DecidableEq

def Place.quoted : Place → Bool
  | bare => false
  | braces quoted => quoted
  | quotes | calculation _ | document => true

def Place.problem? : Place → Option Problem
  | bare | document => none
  | quotes | braces true => some .openQuote
  | braces false => some .openBrace
  | calculation _ => some .openParentheses

/-- What a backslash before a character means: where most is quoted, it stays before most. -/
def Place.escaped (place : Place) (c : Char) : List Char :=
  let kept := match place with
    | bare | braces false => false
    | braces true => !(['$', '`', '\\', '"', '\x7d'].contains c)
    | quotes | calculation _ => !(['$', '`', '\\', '"'].contains c)
    | document => !(['$', '`', '\\'].contains c)
  if c = '\n' then [] else if kept then ['\\', c] else [c]

def takeBackquoted (quoted : Bool) : List Char → Option (List Char × List Char)
  | [] => none
  | '`' :: cs => some ([], cs)
  | '\\' :: c :: cs =>
    (takeBackquoted quoted cs).map fun (inner, rest) =>
      let removed := ['\\', '`', '$'].contains c || (quoted && c = '"')
      ((if c = '\n' then [] else if removed then [c] else ['\\', c]) ++ inner, rest)
  | c :: cs => (takeBackquoted quoted cs).map fun (inner, rest) => (c :: inner, rest)

def marks : List String := ["&&", "||", ";;", ";", "&", "|", "(", ")", "\n"]

def redirects : List String := ["<<-", "<<", "<>", "<&", "<", ">>", ">&", ">|", ">"]

def starting (cs : List Char) (texts : List String) : Option String :=
  texts.find? fun text => text.toList.isPrefixOf cs

def wordText : Word → List Char
  | [] => []
  | .text cs _ :: rest => cs ++ wordText rest
  | _ :: rest => wordText rest

def plainText : Word → Option (List Char)
  | [] => some []
  | .text cs false :: rest => (plainText rest).map (cs ++ ·)
  | _ => none

def channel? (w : Word) : Option Nat :=
  match plainText w with
  | some [c] => if c.isDigit then some (c.toNat - '0'.toNat) else none
  | _ => none

def lineCount (cs : List Char) : Nat := cs.count '\n'

/-- A document that begins after the line: whether the tabs that its lines start with are dropped,
the line that ends it, and whether it is read as it stands. -/
structure Pending where
  strips : Bool
  delimiter : List Char
  literal : Bool

def Pending.take (p : Pending) : Nat → List Char → List Char × List Char
  | 0, cs => ([], cs)
  | _, [] => ([], [])
  | fuel + 1, cs =>
    let whole := cs.takeWhile (· ≠ '\n')
    let line := if p.strips then whole.dropWhile (· = '\t') else whole
    let rest := cs.drop whole.length
    if line = p.delimiter then ([], rest.drop 1)
    else
      let (body, last) := p.take fuel (rest.drop 1)
      (line ++ rest.take 1 ++ body, last)

inductive Open where
  | parenthesis
  /-- A choice among patterns, after each of which stands a parenthesis that closes nothing. -/
  | patterns
  deriving DecidableEq

/-- What has been read before a token: whether it is in a word, which a parenthesis ends, what has
been opened, whether a command may begin, whether the word is to be the last line of a document,
with or without the tabs, and the documents that begin after the line. -/
structure Before where
  nested : Bool
  opened : List Open
  fresh : Bool
  awaited : Option Bool
  pending : List Pending

def Before.afterMark (b : Before) (text : String) : Option Before :=
  let b := { b with fresh := true, awaited := none }
  match text, b.opened with
  | "(", _ => some { b with opened := .parenthesis :: b.opened }
  | ")", .parenthesis :: rest => some { b with opened := rest }
  | ")", [] => if b.nested then none else some b
  | _, _ => some b

def openers : List String :=
  ["if", "then", "elif", "else", "while", "until", "do", "\x7b", "!", "in", "case"]

def Before.afterWord (b : Before) (w : Word) : Before :=
  let text := (plainText w).map String.ofList
  let pending := match b.awaited with
    | some strips => b.pending ++ [⟨strips, wordText w, (plainText w).isNone⟩]
    | none => b.pending
  let opened := match b.fresh, text, b.opened with
    | true, some "case", opened => .patterns :: opened
    | true, some "esac", .patterns :: rest => rest
    | _, _, opened => opened
  let fresh := text = some "in" || (b.fresh && text.any fun t => openers.contains t && t ≠ "case")
  { b with opened := opened, fresh := fresh, awaited := none, pending := pending }

def attach : List Word → Tokens → Tokens
  | body :: bodies, (line, .redirect channel "<<") :: (_, .word _) :: rest =>
    (line, .document channel body) :: attach bodies rest
  | bodies, (_, .lines _) :: rest => attach bodies rest
  | bodies, t :: rest => t :: attach bodies rest
  | _, [] => []

def documents (ts : Tokens) : List Word :=
  ts.filterMap fun t => match t.2 with
    | .lines body => some body
    | _ => none

def problem? (ts : Tokens) : Option Problem :=
  match ts.getLast? with
  | some (_, .broken problem) => some problem
  | _ => none

mutual

def pieces (last : Nat) (place : Place) (fuel : Nat) (cs : List Char) :
    Except Problem (List Piece × List Char) :=
  match fuel, cs with
  | 0, _ => .error .openQuote
  | _ + 1, [] => match place.problem? with
    | some problem => .error problem
    | none => .ok ([], [])
  | fuel + 1, c :: cs =>
    let quoted := place.quoted
    let onwards := fun (next : Place) (found : List Piece) (cs : List Char) => do
      let (more, rest) ← pieces last next fuel cs
      .ok (found ++ more, rest)
    let go := onwards place
    match place, c, cs with
    | .bare, c, cs =>
      if endsWord c then .ok ([], c :: cs) else pieceThen last place fuel quoted c cs go
    | .quotes, '"', cs => .ok ([], cs)
    | .braces _, '\x7d', cs => .ok ([], cs)
    | .calculation 0, ')', ')' :: cs => .ok ([], cs)
    | .calculation depth, '(', cs => onwards (.calculation (depth + 1)) [.text ['('] true] cs
    | .calculation (depth + 1), ')', cs => onwards (.calculation depth) [.text [')'] true] cs
    | .calculation _, '"', cs | .document, '"', cs => go [.text ['"'] true] cs
    | _, c, cs => pieceThen last place fuel quoted c cs go
  termination_by structural fuel

def pieceThen (last : Nat) (place : Place) (fuel : Nat) (quoted : Bool) (c : Char) (cs : List Char)
    (go : List Piece → List Char → Except Problem (List Piece × List Char)) :
    Except Problem (List Piece × List Char) :=
  match fuel with
  | 0 => .error .openQuote
  | fuel + 1 =>
    match c, cs with
    | '"', cs => do
      let (inner, rest) ← pieces last .quotes fuel cs
      go (.text [] true :: inner) rest
    | '\\', [] => go [.text ['\\'] true] []
    | '\\', c :: cs => go [.text (place.escaped c) true] cs
    | '\'', cs =>
      if quoted then go [.text ['\''] true] cs
      else
        let inner := cs.takeWhile (· ≠ '\'')
        match cs.drop inner.length with
        | _ :: rest => go [.text inner true] rest
        | [] => .error .openQuote
    | '`', cs =>
      match takeBackquoted quoted cs with
      | some (inner, rest) =>
        let (ts, _) := tokensFrom (1 + lineCount inner) ⟨false, [], true, none, []⟩ fuel inner
        match problem? ts with
        | some problem => .error problem
        | none => go [.output (attach (documents ts) ts) quoted] rest
      | none => .error .openBackquote
    | '$', '(' :: '(' :: cs => do
      let (inner, rest) ← pieces last (.calculation 0) fuel cs
      go [.calculation inner quoted] rest
    | '$', '(' :: cs =>
      let (ts, rest) := tokensFrom last ⟨true, [], true, none, []⟩ fuel cs
      match problem? ts with
      | some problem => .error problem
      | none => go [.output (attach (documents ts) ts) quoted] rest
    | '$', '\x7b' :: cs => do
      let (opening, rest) := readOpening quoted cs
      let (operand, rest) ← pieces last (.braces (quoted && !opening.isPattern)) fuel rest
      go [opening.build operand] rest
    | '$', cs =>
      let (name, rest) := takeName false cs
      if name.isEmpty then go [.text ['$'] quoted] cs
      else go [.parameter (String.ofList name) quoted] rest
    | c, cs => go [.text [c] quoted] cs
  termination_by structural fuel

/-- The tokens of a text that ends on a line, each with the number of its line, and what follows
them. -/
def tokensFrom (last : Nat) (b : Before) (fuel : Nat) (cs : List Char) : Tokens × List Char :=
  match fuel, cs with
  | 0, cs => ([], cs)
  | fuel + 1, [] =>
    if b.nested then ([(last, .broken (.unexpected "end of file" (some "\")\"")))], [])
    else match b.pending with
      | [] => ([], [])
      | _ :: rest =>
        let (ts, cs) := tokensFrom last { b with pending := rest } fuel []
        ((last, .lines []) :: ts, cs)
  | fuel + 1, c :: cs =>
    let whole := c :: cs
    let line := last - lineCount whole
    let go := fun (token : Token) (b : Before) (cs : List Char) =>
      let (ts, rest) := tokensFrom last b fuel cs
      ((line, token) :: ts, rest)
    if c = ' ' || c = '\t' then tokensFrom last b fuel cs
    else if c = '#' then tokensFrom last b fuel (cs.dropWhile (· ≠ '\n'))
    else if c = '\\' && cs.head? = some '\n' then tokensFrom last b fuel (cs.drop 1)
    else match starting whole marks, starting whole redirects with
      | some "\n", _ => documentsThen last line b fuel cs
      | some text, _ =>
        match b.afterMark text with
        | some b => go (.mark text) b (whole.drop text.length)
        | none => ([(line, .mark text)], cs)
      | none, some text => redirectThen last line none text b fuel (whole.drop text.length)
      | none, none =>
        match pieces last .bare fuel whole with
        | .error problem => ([(last, .broken problem)], [])
        | .ok (w, rest) =>
          match channel? w, starting rest redirects with
          | some n, some text =>
            redirectThen last line (some n) text b fuel (rest.drop text.length)
          | _, _ => go (.word w) (b.afterWord w) rest
  termination_by structural fuel

def redirectThen (last line : Nat) (channel : Option Nat) (text : String) (b : Before) (fuel : Nat)
    (cs : List Char) : Tokens × List Char :=
  match fuel with
  | 0 => ([], cs)
  | fuel + 1 =>
    let awaited := if text = "<<" then some false else if text = "<<-" then some true else none
    let (ts, rest) := tokensFrom last { b with awaited := awaited } fuel cs
    ((line, .redirect channel (if awaited.isSome then "<<" else text)) :: ts, rest)
  termination_by structural fuel

def documentsThen (last line : Nat) (b : Before) (fuel : Nat) (cs : List Char) :
    Tokens × List Char :=
  match fuel with
  | 0 => ([], cs)
  | fuel + 1 =>
    match b.pending with
    | [] =>
      let (ts, rest) := tokensFrom last { b with fresh := true, awaited := none } fuel cs
      ((line, .mark "\n") :: ts, rest)
    | p :: pending =>
      let (body, rest) := p.take (cs.length + 1) cs
      let line' := last - lineCount cs + lineCount body
      match if p.literal then .ok ([.text body true], []) else pieces line' .document fuel body with
      | .error problem => ([(last, .broken problem)], [])
      | .ok (w, _) =>
        let (ts, rest) := documentsThen last line { b with pending := pending } fuel rest
        ((line, .lines w) :: ts, rest)
  termination_by structural fuel

end

def tokens (script : List Char) : Tokens :=
  let (ts, _) := tokensFrom (1 + lineCount script) ⟨false, [], true, none, []⟩
    (4 * script.length + 8) script
  attach (documents ts) ts

end Stepwise.Shell
