/-!
Command lines: argument lists written as one line of text. `join` quotes each argument so that the
line can be pasted into a shell; `split` reads a line with single quotes, double quotes and
backslashes back into its arguments. Neither expands anything.
-/
namespace Stepwise.CommandLine

inductive SplitError where
  | openQuote
  | openEscape
  deriving DecidableEq, Repr

def SplitError.message : SplitError → String
  | openQuote => "No closing quotation"
  | openEscape => "No escaped character"

/-- Where the reader of a line stands. -/
inductive Mode where
  | blank
  | bare
  | escaped
  | single
  | double
  | doubleEscaped
  deriving DecidableEq, Repr

def isSpace (c : Char) : Bool :=
  c = ' ' || c = '\t' || c = '\r' || c = '\n'

def onto (cs : List Char) : List (List Char) → List (List Char)
  | [] => [cs]
  | word :: words => (cs ++ word) :: words

def read : Mode → List Char → Except SplitError (List (List Char))
  | .blank, [] => .ok []
  | .bare, [] => .ok [[]]
  | .escaped, [] | .doubleEscaped, [] => .error .openEscape
  | .single, [] | .double, [] => .error .openQuote
  | .blank, c :: cs =>
    if isSpace c then read .blank cs
    else if c = '\x27' then read .single cs
    else if c = '\x22' then read .double cs
    else if c = '\\' then read .escaped cs
    else onto [c] <$> read .bare cs
  | .bare, c :: cs =>
    if isSpace c then ([] :: ·) <$> read .blank cs
    else if c = '\x27' then read .single cs
    else if c = '\x22' then read .double cs
    else if c = '\\' then read .escaped cs
    else onto [c] <$> read .bare cs
  | .escaped, c :: cs => onto [c] <$> read .bare cs
  | .single, c :: cs => if c = '\x27' then read .bare cs else onto [c] <$> read .single cs
  | .double, c :: cs =>
    if c = '\x22' then read .bare cs
    else if c = '\\' then read .doubleEscaped cs
    else onto [c] <$> read .double cs
  | .doubleEscaped, c :: cs =>
    if c = '\x22' || c = '\\' then onto [c] <$> read .double cs
    else onto ['\\', c] <$> read .double cs

def split (line : String) : Except SplitError (List String) :=
  List.map String.ofList <$> read .blank line.toList

def isSafe (c : Char) : Bool :=
  c.isAlphanum || "_@%+=:,./-".toList.contains c

/-- One character between single quotes. A single quote leaves them and stands between double
ones. -/
def quoteChar (c : Char) : List Char :=
  if c = '\x27' then ['\x27', '\x22', '\x27', '\x22', '\x27'] else [c]

/-- An argument as one word of a line: bare if every character is safe, between single quotes
otherwise. -/
def quoteChars (cs : List Char) : List Char :=
  if !cs.isEmpty && cs.all isSafe then cs
  else '\x27' :: (cs.flatMap quoteChar ++ ['\x27'])

def quote (arg : String) : String :=
  String.ofList (quoteChars arg.toList)

def join (args : List String) : String :=
  " ".intercalate (args.map quote)

end Stepwise.CommandLine
