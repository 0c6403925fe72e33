import Stepwise.Env
import Stepwise.Machine.Effect
import Stepwise.Shell.Command
import Stepwise.Shell.Signal

/-!
The state of a shell: its variables, where its channels lead, and the files, inputs and logs that it
works on.
-/
namespace Stepwise.Shell

open Machine (Termination Written octets)

def statusOf : Termination → Nat
  | .exited code => code
  | .killed signal => 128 + signal

inductive Port where
  | nowhere
  | log (index channel : Nat)
  | file (place : List String)
  | source (index : Nat)
  deriving DecidableEq, Repr

/-- A shell's name and arguments, its variables and which of them it hands on, how its last command
ended, and what it works on. -/
structure State where
  name : String
  args : List String
  env : Env
  exported : List String
  readOnly : List String
  status : Nat
  outputStatus : Nat
  pid : Nat
  options : List Char
  functions : List (String × Command)
  traps : List (Nat × String)
  pending : List Nat
  doomed : Option Nat
  outer : Option (List (Nat × String))
  channels : List (Nat × Port)
  inputs : List (List UInt8)
  logs : List Written
  world : World
  /-- The commands that are still to be waited for, and how they ended, the last one first. -/
  jobs : List (Nat × Termination)
  started : Nat
  running : Option String
  line : Nat
  loops : Nat
  calls : Nat
  saved : List (List (String × Option String))
  mask : Nat

def optionNames : List (Char × String) :=
  [('e', "errexit"), ('f', "noglob"), ('I', "ignoreeof"), ('i', "interactive"), ('m', "monitor"),
    ('n', "noexec"), ('s', "stdin"), ('x', "xtrace"), ('v', "verbose"), ('V', "vi"), ('E', "emacs"),
    ('C', "noclobber"), ('a', "allexport"), ('b', "notify"), ('u', "nounset")]

namespace State

def has (st : State) (option : Char) : Bool := st.options.contains option

def optionLetters (st : State) : String :=
  String.ofList ((optionNames.map Prod.fst).filter st.has)

def switch (st : State) (option : Char) (on : Bool) : State :=
  let others := st.options.filter (· ≠ option)
  { st with options := if on then option :: others else others }

def parameter? (st : State) (name : String) : Option String :=
  match name with
  | "?" => some (toString st.status)
  | "$" => some (toString st.pid)
  | "#" => some (toString st.args.length)
  | "-" => some st.optionLetters
  | "!" => if st.started = 0 then none else some (toString (st.pid + st.started))
  | "@" | "*" => if st.args.isEmpty then none else some (" ".intercalate st.args)
  | "0" => some st.name
  | name =>
    match name.toNat? with
    | some 0 => some st.name
    | some (n + 1) => st.args[n]?
    | none => st.env.get? name

def set (st : State) (name value : String) : State :=
  { st with
    env := st.env.set name value
    exported := if st.has 'a' then name :: st.exported else st.exported }

def assign (st : State) (name value : String) : Except String State :=
  if st.readOnly.contains name then .error (name ++ ": is read only") else .ok (st.set name value)

def forget (st : State) (name : String) : State :=
  { st with
    env := Env.ofPairs (st.env.pairs.filter fun p => p.1 ≠ name)
    exported := st.exported.filter (· ≠ name) }

def restore (st : State) (name : String) : Option String → State
  | some value => { st with env := st.env.set name value }
  | none => st.forget name

def rows : Nat := 39

def row (name : String) : Nat :=
  let codes := (octets name).map UInt8.toNat
  codes.foldl (· + ·) (codes.headD 0 * 16) % rows

def handedOn (st : State) : Env :=
  let pairs := st.env.pairs.filter fun p => st.exported.contains p.1
  Env.ofPairs ((List.range rows).flatMap fun n => pairs.filter fun p => row p.1 = n)

def port? (st : State) (channel : Nat) : Option Port := st.channels.lookup channel

def lead (st : State) (channel : Nat) (port : Option Port) : State :=
  let others := st.channels.filter fun c => c.1 ≠ channel
  { st with channels := port.elim others fun p => (channel, p) :: others }

def send (st : State) (port : Option Port) (bytes : List UInt8) : State :=
  match port with
  | some (.log index channel) =>
    { st with logs := st.logs.modify index ((channel, bytes) :: ·) }
  | some (.file place) =>
    match st.world.at? place with
    | some (.file old executable) =>
      { st with world := st.world.put place (.file (old ++ bytes) executable) }
    | _ => st
  | _ => st

def write (st : State) (channel : Nat) (bytes : List UInt8) : State :=
  if bytes.isEmpty then st else st.send (st.port? channel) bytes

def say (st : State) (line : String) : State := st.write 1 (octets (line ++ "\n"))

def unread (st : State) (channel : Nat) : List UInt8 :=
  match st.port? channel with
  | some (.source index) => st.inputs[index]?.getD []
  | _ => []

def leave (st : State) (channel : Nat) (bytes : List UInt8) : State :=
  match st.port? channel with
  | some (.source index) => { st with inputs := st.inputs.modify index fun _ => bytes }
  | _ => st

def feed (st : State) (channel : Nat) (bytes : List UInt8) : State :=
  { st with inputs := st.inputs ++ [bytes] }.lead channel (some (.source st.inputs.length))

def who (st : State) : String :=
  st.name ++ ": " ++ toString st.line ++ (st.running.elim "" fun name => ": " ++ name)

def complain (st : State) (text : String) : State :=
  st.write 2 (octets (st.who ++ ": " ++ text ++ "\n"))

def failing (st : State) (status : Nat) (text : String) : State :=
  { st.complain text with status := status }

def ending (st : State) (status : Nat) : State := { st with status := status }

def reap (st : State) (t : Termination) : State :=
  let st := st.ending (statusOf t)
  match t with
  | .exited _ => st
  | .killed signal => (obituary? signal).elim st fun text => st.write 2 (octets (text ++ "\n"))

end State

end Stepwise.Shell
