import Stepwise.Cli
import Stepwise.Machine

/-!
The program. It reads the files that its arguments may mean into a tree, runs the command line on it
with the built-in machine as the host of all steps, and writes the files that are new or have
changed.
-/
namespace Stepwise.Main

def host : Cli.Host World where
  executor := Child.executor Machine.host
  world := id
  setWorld w _ := w

/-- The names of files that arguments may mean: the arguments themselves, what follows an equal sign
in them, and the files that are looked for without being named. -/
def fileNames (args : List String) : List String :=
  Pipeline.defaultFiles ++ args.flatMap fun a =>
    [a, String.ofList ((a.toList.dropWhile (· ≠ '=')).drop 1)]

def placeOf (w : World) (name : String) : List String :=
  w.startOf name ++ (Path.ofString name).parts

def timestamp : String := "1970-01-01T00:00:00+00:00"

def changes (before after : World) : List (List String × List UInt8) :=
  after.entries.filterMap fun (place, e) => match e with
    | .file bytes _ => if before.at? place = some e then none else some (place, bytes)
    | .directory => none

def readFile (w : World) (name : String) : IO World := do
  if name = "" then return w
  let place := placeOf w name
  try
    let bytes ← IO.FS.readBinFile name
    return (w.mkdirs place.dropLast).put place (.file bytes.toList false)
  catch _ => return w.mkdirs place.dropLast

def writeFile (place : List String) (bytes : List UInt8) : IO Unit :=
  IO.FS.writeBinFile ("/" ++ "/".intercalate place) ⟨bytes.toArray⟩

def newRunId : IO String := do
  let digits ← (List.range 12).mapM fun _ => IO.rand 0 15
  return String.ofList (digits.map Nat.digitChar)

/-- The variables in the octets that the system keeps for a process. The first value of a name
counts. -/
def environOf (octets : List UInt8) : Env :=
  (octets.splitOn 0).foldl (fun env entry =>
    let name := entry.takeWhile (· ≠ '='.toUInt8)
    match entry.drop name.length with
    | [] => env
    | _ :: value =>
      let name := String.ofList (Text.Utf8.decodeName name)
      if (env.get? name).isSome then env
      else env.set name (String.ofList (Text.Utf8.decodeName value))) ∅

def environment : IO Env := do
  try return environOf (← IO.FS.readBinFile "/proc/self/environ").toList
  catch _ => return ∅

def defaultWidth : Nat := 80

def consoleWidth (environ : Env) : Nat :=
  match environ.get? "COLUMNS" with
  | some columns =>
    if columns ≠ "" && columns.toList.all Char.isDigit then max 1 columns.toNat! else defaultWidth
  | none => defaultWidth

theorem consoleWidth_pos (environ : Env) : 0 < consoleWidth environ := by
  unfold consoleWidth
  split
  · split
    · exact Nat.le_max_left 1 _
    · decide
  · decide

def run (args : List String) : IO UInt32 := do
  let home := (Path.ofString (← IO.currentDir).toString).parts
  let empty : World := ⟨[], home⟩
  let w ← (fileNames args).foldlM readFile (Machine.install (empty.mkdirs home))
  let environ ← environment
  let around : Cli.Surroundings := {
    environ, width := consoleWidth environ, explain := fun _ => .blank, runId := ← newRunId,
    timestamp, some_width := consoleWidth_pos environ }
  let (outcome, setup) := Cli.invoke host around args w
  IO.print outcome.stdout
  IO.eprint (outcome.stderr setup)
  for (place, bytes) in changes w outcome.state do
    writeFile place bytes
  match outcome.exit with
  | .code _ => pure ()
  | .usage e => IO.eprintln e.message
  | .crashed f => IO.eprintln f.message
  return outcome.exit.status.toNat.toUInt32

end Stepwise.Main

def main (args : List String) : IO UInt32 := Stepwise.Main.run args
