import Stepwise.Machine.Calculation
import Stepwise.Machine.Format
import Stepwise.Machine.Search
import Stepwise.Machine.Test

/-!
Utilities: small programs that need nothing but their arguments, their input and the files. A shell
has some of them built in, and there they differ a little.
-/
namespace Stepwise.Machine

inductive Utility where
  | succeed
  | fail
  | echo
  | printf
  | test
  | bracket
  | printDirectory
  | sleep
  | touch
  | makeDirectory
  | removeDirectory
  | remove
  | changeMode
  | copy
  | move
  | list
  | cat
  | head
  | tail
  | count
  | sort
  | unique
  | transliterate
  | cut
  | tee
  | search
  | sequence
  | baseName
  | directoryName
  | calculate
  | insist
  deriving DecidableEq, Repr

namespace Utility

def named : List (String × Utility) :=
  [("true", succeed), ("false", fail), ("echo", echo), ("printf", printf), ("test", test),
    ("[", bracket), ("pwd", printDirectory), ("sleep", sleep), ("touch", touch),
    ("mkdir", makeDirectory), ("rmdir", removeDirectory), ("rm", remove), ("chmod", changeMode),
    ("cp", copy), ("mv", move), ("ls", list), ("cat", cat), ("head", head), ("tail", tail),
    ("wc", count), ("sort", sort), ("uniq", unique), ("tr", transliterate), ("cut", cut),
    ("tee", tee), ("grep", search), ("seq", sequence), ("basename", baseName),
    ("dirname", directoryName), ("expr", calculate), ("yes", insist)]

def isBuiltIn : Utility → Bool
  | succeed | fail | echo | printf | test | bracket => true
  | _ => false

def builtIn? (name : String) : Option Utility := (named.lookup name).filter isBuiltIn

def reads (args : List String) : Utility → Bool
  | cat | head | tail | count | sort | unique | cut =>
    (Files.operands args).isEmpty || args.contains "-"
  | search => (Files.operands args).length ≤ 1
  | transliterate | tee => true
  | _ => false

def isInterval (s : String) : Bool :=
  let cs := s.toList
  let cs := if cs.getLast?.any "smhd".toList.contains then cs.dropLast else cs
  !cs.isEmpty && (cs.all fun c => c.isDigit || c = '.') && cs.count '.' ≤ 1 &&
    cs.any Char.isDigit

def insistenceCount : Nat := 65536

def insistence (args : List String) : List UInt8 :=
  let line := octets ((if args.isEmpty then "y" else " ".intercalate args) ++ "\n")
  (List.replicate insistenceCount line).flatten

def rest (who : String) (args : List String) (w : World) : Effect :=
  match args, args.filter fun a => !isInterval a with
  | [], _ => .misuse w 1 who "missing operand"
  | _, [] => .silent w 0
  | _, bad => .complaining w 1 (bad.map (fun a =>
      who ++ ": invalid time interval " ++ Files.shown a) ++
      ["Try '" ++ who ++ " --help' for more information."])

def effect (u : Utility) (builtIn : Bool) (who : String) (args : List String)
    (stdin : List UInt8) (w : World) : Effect :=
  match u with
  | succeed => .silent w 0
  | fail => .silent w 1
  | echo => .saying w (echoText builtIn args)
  | printf => printEffect builtIn who args w
  | test => Test.effect builtIn w who args
  | bracket =>
    if args.getLast? = some "]" then Test.effect builtIn w who args.dropLast
    else .complaint w 2 (who ++ if builtIn then ": missing ]" else ": missing ']'")
  | printDirectory => .saying w (octets ("/" ++ "/".intercalate w.home ++ "\n"))
  | sleep => rest who args w
  | touch => Files.eachOperand who "missing file operand" w args Files.touch
  | makeDirectory => Files.eachOperand who "missing operand" w args
      (Files.makeDirectory (Files.hasOption args 'p'))
  | removeDirectory => Files.eachOperand who "missing operand" w args Files.removeDirectory
  | remove =>
    let forced := Files.hasOption args 'f'
    let whole := Files.hasOption args 'r' || Files.hasOption args 'R'
    if forced && (Files.operands args).isEmpty then .silent w 0
    else Files.eachOperand who "missing operand" w args (Files.remove whole forced)
  | changeMode =>
    match args with
    | mode :: names => Files.eachOperand who ("missing operand after " ++ Files.shown mode) w names
        (Files.changeMode mode)
    | [] => .misuse w 1 who "missing operand"
  | copy => Files.copyAll false who w args
  | move => Files.copyAll true who w args
  | list => Files.list who w args
  | cat => Filter.cat who args stdin w
  | head => Filter.head who args stdin w
  | tail => Filter.tail who args stdin w
  | count => Filter.countAll who args stdin w
  | sort => Filter.sort who args stdin w
  | unique => Filter.unique who args stdin w
  | transliterate => Filter.transliterate who args stdin w
  | cut => Filter.cut who args stdin w
  | tee => Filter.tee who args stdin w
  | search => Search.grep who args stdin w
  | sequence => Filter.sequence who args w
  | baseName => Filter.baseName who args w
  | directoryName => Filter.directoryName who args w
  | calculate => Calculation.effect who args w
  | insist => .saying w (insistence args)

def run (u : Utility) (builtIn : Bool) (who : String) (args : List String)
    (stdin : List UInt8) (w : World) : Effect :=
  { u.effect builtIn who args stdin w with unread := if u.reads args then [] else stdin }

end Utility

end Stepwise.Machine
