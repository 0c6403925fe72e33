import Stepwise.Child
import Stepwise.Shell.Run

/-!
A system to run commands on: a tree of files with a shell and some utilities in it. A command is
looked up in the directories of the path its variables give, or is the path of a file. The file is a
program of the system, or names in its first line the interpreter that runs it. `Machine.host`
starts child processes on it.
-/
namespace Stepwise.Machine

inductive Program where
  | shell
  | environment
  | variablePrinter
  | utility (u : Utility)
  deriving DecidableEq, Repr

namespace Program

def named : List (String × Program) :=
  [("sh", shell), ("dash", shell), ("bash", shell), ("env", environment),
    ("printenv", variablePrinter)] ++ Utility.named.map fun (name, u) => (name, utility u)

def magic : List UInt8 := [0x7f, 0x45, 0x4c, 0x46]

def bytes (name : String) : List UInt8 := magic ++ octets name

def ofBytes? (found : List UInt8) : Option Program :=
  (named.find? fun p => bytes p.1 = found).map Prod.snd

end Program

def programDirectories : List (List String) := [["bin"], ["usr", "bin"]]

def zeroCount : Nat := 262144

def zeroFile : List UInt8 := List.replicate zeroCount 0

def install (w : World) : World :=
  let w := programDirectories.foldl World.mkdirs (w.mkdirs ["dev"])
  let w := w.put sinkPath (.file [] false)
  let w := w.put zeroPath (.file zeroFile false)
  programDirectories.foldl (fun w directory =>
    Program.named.foldl (fun w p =>
      w.put (directory ++ [p.1]) (.file (Program.bytes p.1) true)) w) w

def interpreter? (bytes : List UInt8) : Option (String × List String) :=
  match Text.Utf8.decodeLossy (bytes.takeWhile (· ≠ 10)) with
  | '#' :: '!' :: line =>
    let isBlank := fun c => c = ' ' || c = '\t'
    let line := ((line.dropWhile isBlank).reverse.dropWhile isBlank).reverse
    let name := line.takeWhile fun c => !isBlank c
    let rest := (line.drop name.length).dropWhile isBlank
    if name.isEmpty then none
    else some (String.ofList name, if rest.isEmpty then [] else [String.ofList rest])
  | _ => none

def interpreterDepth : Nat := 5

def load (w : World) (path name : String) (args : List String) :
    Nat → Except Errno (Program × String × List String)
  | 0 => .error .noExecutable
  | depth + 1 => do
    match ← w.get path with
    | .directory | .file _ false => .error .accessDenied
    | .file bytes true =>
      match Program.ofBytes? bytes, interpreter? bytes with
      | some p, _ => .ok (p, name, args)
      | none, some (interpreter, given) =>
        load w interpreter interpreter (given ++ path :: args) depth
      | none, none => .error .noExecutable

def pathIn (directory name : String) : String :=
  if directory = "" || directory.endsWith "/" then directory ++ name else directory ++ "/" ++ name

def defaultPath : String := "/bin:/usr/bin"

/-- The files that a command may be: itself if it has a slash in it, or one in each directory of the
path. -/
def candidates (command : String) (path : Option String) : List String :=
  if command.toList.contains '/' then [command]
  else (Text.splitAt ':' (path.getD defaultPath).toList).map fun directory =>
    pathIn (String.ofList directory) command

/-- The first success. If there is none, the first error that says more than that nothing is there,
or else the last one. -/
def firstOf {α : Type} (remembered : Option Errno) (last : Errno) :
    List (Except Errno α) → Except Errno α
  | [] => .error (remembered.getD last)
  | .ok a :: _ => .ok a
  | .error e :: rest =>
    let telling := e ≠ .notFound && e ≠ .notDirectory
    firstOf (remembered <|> if telling then some e else none) e rest

def textLimit : Nat := 131071

def fits (args : List String) (env : Env) : Bool :=
  args.all (fun a => a.utf8ByteSize ≤ textLimit) &&
    env.pairs.all fun p => p.1.utf8ByteSize + 1 + p.2.utf8ByteSize ≤ textLimit

def shownVariables (env : Env) : List UInt8 :=
  octets (String.join (env.pairs.map fun p => p.1 ++ "=" ++ p.2 ++ "\n"))

def runVariables (args : List String) (env : Env) (w : World) : Effect :=
  let values := args.filterMap env.get?
  if args.isEmpty then .saying w (shownVariables env)
  else
    { Effect.saying w (octets (String.join (values.map fun v => v ++ "\n"))) with
      ended := .exited (if values.length = args.length then 0 else 1) }

def readSettings (env : Env) : List String → Env × List String
  | "-i" :: rest | "-" :: rest => readSettings ∅ rest
  | "-u" :: name :: rest =>
    readSettings (Env.ofPairs (env.pairs.filter fun p => p.1 ≠ name)) rest
  | a :: rest =>
    if a.toList.contains '=' then
      let name := String.ofList (a.toList.takeWhile (· ≠ '='))
      readSettings (env.set name (String.ofList (a.toList.drop (name.length + 1)))) rest
    else (env, a :: rest)
  | [] => (env, [])

def runEnvironment (launch : Shell.Launch) (args : List String) (env : Env) (stdin : List UInt8)
    (w : World) : Effect :=
  match readSettings env args with
  | (env, []) => .saying w (shownVariables env)
  | (env, command :: args) =>
    let shown := "env: '" ++ command ++ "': "
    match launch command args (env.get? "PATH") env stdin w with
    | .ok e => e
    | .error .notFound => .complaint w 127 (shown ++ Errno.notFound.text)
    | .error e => .complaint w 126 (shown ++ e.text)

def pid : Nat := 2

def processDepth : Nat := 32

def launch : Nat → Shell.Launch
  | 0 => fun _ _ _ _ _ _ => .error .accessDenied
  | depth + 1 => fun command args path env stdin w => do
    let loaded := (candidates command path).map fun file =>
      load w file command args interpreterDepth
    let (p, name, args) ← firstOf none .notFound loaded
    if !fits (name :: args) env then .error .argumentsTooLong
    else .ok (match p with
      | .shell => Shell.program (launch depth) pid name args env stdin w
      | .environment => runEnvironment (launch depth) args env stdin w
      | .variablePrinter => { runVariables args env w with unread := stdin }
      | .utility u => u.run false name args stdin w)

def exitCode : Termination → Int
  | .exited code => code
  | .killed signal => -(signal : Int)

/-- Starts a child process. It moves to its directory before its command is looked up. -/
def start (r : Child.Request) (w : World) : Except Child.Refusal Child.Outcome × World :=
  let cwd := r.context.cwd.toString
  match w.find cwd, w.isDirectory cwd with
  | .error e, _ => (.error (.directory e), w)
  | .ok _, false => (.error (.directory .notDirectory), w)
  | .ok place, true =>
    let env := r.context.env
    let path := env.get? "PATH"
    match launch processDepth r.command r.args path env [] { w with home := place } with
    | .error e => (.error (.command e), w)
    | .ok e => (.ok ⟨exitCode e.ended, e.on 1, e.on 2⟩, { e.world with home := w.home })

def host : Child.Host World where
  start := start
  isDirectory path w := w.isDirectory path.toString
  elapsedMs _ _ := .ok 0

end Stepwise.Machine
