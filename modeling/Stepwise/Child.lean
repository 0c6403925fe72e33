import Stepwise.Fault
import Stepwise.Run
import Stepwise.World.Errno

/-!
Commands as child processes. A host starts a process and says how it ended and what it wrote, or why
it cannot be started. `Child.executor` makes an executor of a host: it tells its log what it starts,
reads captured output as text whatever its octets are, and gives a refusal as a failure of the step.
A request that is no request at all, with a text in it that the system cannot be given or an equal
sign in a variable's name, is a fault instead.
-/
namespace Stepwise

namespace Child

structure Request where
  command : String
  args : List String
  context : Context

/-- How a process ended and what it wrote: its exit code, or the negative number of the signal that
killed it. -/
structure Outcome where
  exitCode : Int
  stdout : List UInt8
  stderr : List UInt8
  deriving Repr

/-- Why a process is not started: because of the command, or because of the directory. -/
inductive Refusal where
  | command (errno : Errno)
  | directory (errno : Errno)
  deriving DecidableEq, Repr

/-- What starts processes, in a state that has its clock in it. -/
structure Host (σ : Type) where
  start : Request → σ → Except Refusal Outcome × σ
  isDirectory : Path → σ → Bool
  elapsedMs : σ → σ → Except Fault Int

def Refusal.reason (refusal : Refusal) (request : Request) (directoryThere : Bool) : String :=
  let cwd := request.context.cwd.toString
  let about := fun (e : Errno) (shown : String) => match e with
    | .notFound =>
      if directoryThere then "command not found" else "working directory not found: " ++ cwd
    | .accessDenied => "permission denied"
    | e => e.about shown
  match refusal with
  | command e => about e (Text.quoted request.command)
  | directory e => about e request.context.cwd.display

namespace Request

def argv (r : Request) : List String := r.command :: r.args

def variableFault? (name value : String) : Option Fault :=
  encodeFault? name <|>
    (if name.toList.contains '=' then some (.value "illegal environment variable name")
      else none) <|>
    encodeFault? value

def fault? (r : Request) : Option Fault :=
  let pairs := r.context.env.pairs
  pairs.findSome? (fun p => variableFault? p.1 p.2) <|>
    r.argv.findSome? nameFault? <|>
    pairs.findSome? (fun p => nulFault? p.1 <|> nulFault? p.2) <|>
    nameFault? r.context.cwd.toString

end Request

def startRecord (r : Request) : LogRecord :=
  ⟨Log.processes, .debug, "Executing " ++ CommandLine.join r.argv ++ " (cwd=" ++
    r.context.cwd.toString ++ ")"⟩

def captured (bytes : List UInt8) : String := .ofList (Text.Utf8.decodeLossy bytes)

def Outcome.completion (o : Outcome) (capture : Bool) (durationMs : Int) : Completion where
  exitCode := o.exitCode
  stdout := if capture then some (captured o.stdout) else none
  stderr := if capture then some (captured o.stderr) else none
  durationMs := durationMs

def executor {σ : Type} (host : Host σ) (capture : Bool) : Executor σ Fault where
  execute command args context state :=
    let request : Request := ⟨command, args, context⟩
    match request.fault? with
    | some fault => (.crashed fault, state)
    | none =>
      let (result, state') := host.start request state
      (match result with
        | .ok outcome =>
          match host.elapsedMs state state' with
          | .ok elapsed => .completed (outcome.completion capture elapsed)
          | .error fault => .crashed fault
        | .error refusal => .unstartable none request.argv
          (refusal.reason request (host.isDirectory context.cwd state')), state')
  announce command args context := [startRecord ⟨command, args, context⟩]
  elapsedMs := host.elapsedMs

end Child

end Stepwise
