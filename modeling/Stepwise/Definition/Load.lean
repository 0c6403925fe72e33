import Stepwise.Definition.Read
import Stepwise.World
import Stepwise.Yaml.Document

/-!
Loading definitions from files. A file that cannot be read, that holds no document, or whose
document is no definition is rejected with a reason that names the file. What is said of a text that
is no YAML is not found here but given. What is wrong with the octets of a file, or with a value in
it that cannot be converted, is a fault and is not caught here.
-/
namespace Stepwise

/-- What is said of a text that is no YAML. It can be written, whatever the text is. -/
structure Yaml.Account where
  text : String
  legible : Text.hasLone text = false
  deriving DecidableEq, Repr

def Yaml.Account.blank : Yaml.Account := ⟨"", rfl⟩

abbrev Yaml.Explain := List Char → Yaml.Account

inductive LoadError where
  | unreadable (path : Path) (error : Errno)
  | malformed (path : Path) (account : Yaml.Account)
  | noMap (path : Path) (kind : String)
  | invalid (path : Path) (problems : List Definition.Problem)
  deriving DecidableEq, Repr

def LoadError.message : LoadError → String
  | unreadable path error =>
    "Cannot read " ++ path.toString ++ ": " ++ error.message path.toString
  | malformed path account => "Invalid YAML in " ++ path.toString ++ ": " ++ account.text
  | noMap path kind => "Expected a YAML mapping in " ++ path.toString ++ ", got " ++ kind
  | invalid path problems =>
    "Validation failed for " ++ path.toString ++ ":\n" ++ Definition.Problem.report problems

inductive LoadFailure where
  | rejected (error : LoadError)
  | fault (fault : Fault)
  deriving DecidableEq, Repr

namespace Definition

def ofValue (path : Path) (v : Value) : Except LoadFailure Definition :=
  match v with
  | .map _ =>
    match read v with
    | .ok d => .ok d
    | .error (.problems all) => .error (.rejected (.invalid path all))
    | .error (.fault f) => .error (.fault f)
  | v => .error (.rejected (.noMap path v.kind))

def ofBytes (explain : Yaml.Explain) (path : Path) (bytes : List UInt8) :
    Except LoadFailure Definition :=
  match Text.Utf8.decode bytes with
  | .error e => .error (.fault (.undecodable e))
  | .ok cs =>
    let cs := Text.unifyNewlines cs
    match Yaml.load cs with
    | .error .malformed => .error (.rejected (.malformed path (explain cs)))
    | .error (.fault f) => .error (.fault f)
    | .ok v => ofValue path v

def load (explain : Yaml.Explain) (w : World) (path : Path) : Except LoadFailure Definition :=
  match nameFault? path.toString with
  | some f => .error (.fault f)
  | none =>
    match w.read path.toString with
    | .error e => .error (.rejected (.unreadable path e))
    | .ok bytes => ofBytes explain path bytes

end Definition

namespace Pipeline

def defaultFiles : List String := ["buildpipe.yaml", "buildpipe.yml"]

def findFile (w : World) (directory : Path) : List String → Except Fault (Option Path)
  | [] => .ok none
  | name :: names =>
    let path := directory / Path.ofString name
    if (nameFault? path.toString).isSome then findFile w directory names
    else match w.isFile path.toString with
      | .ok true => .ok (some path)
      | .ok false => findFile w directory names
      | .error e => .error (.system (e.message path.toString))

def find (w : World) (directory : Path) : Except Fault (Option Path) :=
  findFile w directory defaultFiles

end Pipeline

end Stepwise
