/-!
Log records and where they go. Loggers are named by dotted paths, and a logger is below the next one
that is there among those whose paths its own begins with. Most are below one root. Before the root
is set up its records are written bare, from warnings on, as a last resort. Setting it up gives it
one handler, which writes the logger's path below the root in brackets before each message, and a
level; setting it up again changes the level only. The reader of files of variables keeps its
records to itself.
-/
namespace Stepwise

/-- How grave a record is. A record is let through by a level that does not outrank it. -/
structure Level where
  rank : Int
  deriving DecidableEq, Repr

namespace Level

def unset : Level := ⟨0⟩

def debug : Level := ⟨10⟩

def info : Level := ⟨20⟩

def warning : Level := ⟨30⟩

def error : Level := ⟨40⟩

def critical : Level := ⟨50⟩

def named : List (Level × String) :=
  [(unset, "NOTSET"), (debug, "DEBUG"), (info, "INFO"), (warning, "WARNING"), (error, "ERROR"),
    (critical, "CRITICAL")]

def text (l : Level) : String := (named.lookup l).getD ("Level " ++ toString l.rank)

def ofText? (word : String) : Option Level :=
  (named.find? fun p => p.2 = word).map Prod.fst

end Level

structure LogRecord where
  logger : String
  level : Level
  message : String
  deriving DecidableEq, Repr

namespace Log

def root : String := "buildpipe"

/-- The part of a logger's name that tells it from its siblings: what follows the root's name and a
dot, or the whole name of a logger that is elsewhere. -/
def tagChars (logger : List Char) : List Char :=
  let above := root.toList ++ ['.']
  if above.isPrefixOf logger then logger.drop above.length else logger

def tag (logger : String) : String :=
  String.ofList (tagChars logger.toList)

def tagged (logger message : String) : String :=
  "[" ++ tag logger ++ "] " ++ message

def runner : String := "buildpipe.pipeline.executor"

def processes : String := "buildpipe._subprocess"

def config : String := "buildpipe.config"

def silent : String := "dotenv"

def envFiles : String := "dotenv.main"

def loggers : List String := [root, runner, processes, config, silent, envFiles]

/-- The first logger that is there among the beginnings of a name that end before a dot, the longest
one first. Dots are looked for below a position. One right before another is passed over, and one at
the start ends the search. -/
def parentBelow (there : List String) (name : List Char) (position : Nat) : Option String :=
  match position with
  | 0 => none
  | k + 1 =>
    if name[k]? = some '.' then
      let upper := String.ofList (name.take k)
      if k = 0 then none
      else if there.contains upper then some upper
      else parentBelow there name (k - 1)
    else parentBelow there name k

def parent? (there : List String) (logger : String) : Option String :=
  parentBelow there logger.toList logger.length

def chain (there : List String) : Nat → String → List String
  | 0, _ => []
  | steps + 1, logger =>
    logger :: match parent? there logger with
      | some upper => chain there steps upper
      | none => []

def isBelow (there : List String) (top logger : String) : Bool :=
  (chain there (logger.length + 1) logger).contains top

end Log

/-- How the root logger is set up: whether a setup was done, the number of its handlers, its level,
and whether its records go on to the handlers above it. Beside that, the loggers that are there. -/
structure LogSetup where
  done : Bool
  handlers : Nat
  level : Level
  propagate : Bool
  loggers : List String
  deriving DecidableEq, Repr

namespace LogSetup

def initial : LogSetup := ⟨false, 0, .unset, true, Log.loggers⟩

def levelFor (verbose : Bool) : Level :=
  if verbose then .debug else .warning

def setup (s : LogSetup) (verbose : Bool) : LogSetup :=
  let s := if s.done then s
    else { s with done := true, handlers := s.handlers + 1, propagate := false }
  { s with level := levelFor verbose }

def withLogger (s : LogSetup) (logger : String) : LogSetup :=
  if s.loggers.contains logger then s else { s with loggers := logger :: s.loggers }

def isBelowRoot (s : LogSetup) (logger : String) : Bool := Log.isBelow s.loggers Log.root logger

/-- The level from which a logger's records are let through. Where none is set, warnings are the
first. -/
def threshold (s : LogSetup) (logger : String) : Int :=
  if s.isBelowRoot logger && s.level ≠ .unset then s.level.rank else Level.warning.rank

/-- What a record writes. Each handler of the root writes it with its tag; a record that no handler
sees is written bare. -/
def written (s : LogSetup) (r : LogRecord) : String :=
  if r.level.rank < s.threshold r.logger then ""
  else if Log.isBelow s.loggers Log.silent r.logger then ""
  else if s.isBelowRoot r.logger && s.handlers ≠ 0 then
    String.join (List.replicate s.handlers (Log.tagged r.logger r.message ++ "\n"))
  else r.message ++ "\n"

end LogSetup

inductive Log.Call where
  | setup (verbose : Bool)
  | record (r : LogRecord)

namespace LogSetup

/-- The setup after a call, and what the call writes. The logger of a record is there from then on;
the one that is above even the root has two names and is not among those that are counted. -/
def call (s : LogSetup) : Log.Call → LogSetup × String
  | .setup verbose => (s.setup verbose, "")
  | .record r =>
    let s := if ["", "root"].contains r.logger then s else s.withLogger r.logger
    (s, s.written r)

def after (s : LogSetup) (calls : List Log.Call) : LogSetup :=
  calls.foldl (fun s c => (s.call c).1) s

end LogSetup

end Stepwise
