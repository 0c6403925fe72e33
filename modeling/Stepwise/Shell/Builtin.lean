import Stepwise.Machine.Utility
import Stepwise.Shell.Expansion

/-!
Built-in commands that only change the state of the shell. Each one says whether the shell goes on,
or complains; where a special one complains, the shell ends.
-/
namespace Stepwise.Shell

open Machine (Termination Utility integer? count? octets)

inductive Flow where
  | goesOn
  | leaves (loops : Nat) (again : Bool)
  | returns
  | ends (t : Termination)
  | killed (signal : Nat)
  deriving DecidableEq, Repr

namespace Builtin

abbrev Result := Except String (Flow × State)

def done (st : State) (status : Nat) : Result := .ok (.goesOn, st.ending status)

def number (word : String) : Except String Nat :=
  match count? word with
  | some n => .ok n
  | none => .error ("Illegal number: " ++ word)

def requoted (cs : List Char) : List Char :=
  let rec go : Nat → List Char → List Char
    | 0, _ => []
    | fuel + 1, cs =>
      let plain := cs.takeWhile (· ≠ '\'')
      let quotes := (cs.drop plain.length).takeWhile (· = '\'')
      let rest := cs.drop (plain.length + quotes.length)
      '\'' :: plain ++ '\'' :: (if quotes.isEmpty then [] else '"' :: quotes ++ ['"']) ++
        if rest.isEmpty then [] else go fuel rest
  go (cs.length + 1) cs

def shownValue (s : String) : String := String.ofList (requoted s.toList)

/-- The options that stand before the arguments, letter by letter, if all of them are known. -/
def takeOptions (known : String) : List String → Except String (List Char × List String)
  | [] => .ok ([], [])
  | word :: rest =>
    if word = "--" then .ok ([], rest)
    else match word.toList with
      | '-' :: c :: cs =>
        match (c :: cs).find? fun c => !known.toList.contains c with
        | some bad => .error ("Illegal option -" ++ toString bad)
        | none => do
          let (letters, rest) ← takeOptions known rest
          return (c :: cs ++ letters, rest)
      | _ => .ok ([], word :: rest)

def leaveShell (st : State) : List String → Result
  | [] => .ok (.ends (.exited st.status), st)
  | word :: _ => do
    let n ← number word
    return (.ends (.exited (n % 256)), st.ending (n % 256))

def leaveFunction (st : State) : List String → Result
  | [] => .ok (.returns, st)
  | word :: _ => do return (.returns, st.ending (← number word))

def leaveLoops (again : Bool) (st : State) (args : List String) : Result := do
  let n ← match args with
    | [] => pure 1
    | word :: _ => match ← number word with
      | 0 => throw ("Illegal number: " ++ word)
      | n => pure n
  let n := min n st.loops
  return (if n = 0 then .goesOn else .leaves n again, st.ending 0)

def changeDirectory (st : State) (args : List String) : Result := do
  let (_, args) ← takeOptions "LP" args
  let back := args.head? = some "-"
  let target := match args with
    | [] => (st.env.get? "HOME").getD ""
    | word :: _ => if back then (st.env.get? "OLDPWD").getD "" else word
  let path := if target = "" then "." else target
  match st.world.find path, st.world.isDirectory path with
  | .ok place, true =>
    let here := "/" ++ "/".intercalate place
    let old := (st.env.get? "PWD").getD ""
    let st := { st with
      world := { st.world with home := place }
      env := (st.env.set "OLDPWD" old).set "PWD" here
      exported := "OLDPWD" :: "PWD" :: st.exported }
    done (if back then st.say here else st) 0
  | _, _ => throw ("can't cd to " ++ target)

def sayDirectory (st : State) (args : List String) : Result := do
  let (_, _) ← takeOptions "LP" args
  done (st.say ("/" ++ "/".intercalate st.world.home)) 0

def splitSetting (word : String) : String × Option String :=
  let name := word.toList.takeWhile (· ≠ '=')
  (String.ofList name, match word.toList.drop name.length with
    | _ :: value => some (String.ofList value)
    | [] => none)

def listed (word : String) (st : State) (names : List String) : String :=
  let lines := (names.eraseDups.mergeSort fun a b => a ≤ b).map fun name =>
    word ++ " " ++ name ++
      (match st.env.get? name with
        | some value => "=" ++ shownValue value
        | none => "") ++ "\n"
  String.join lines

def declare (word : String) (names : State → List String) (mark : State → String → State)
    (st : State) (args : List String) : Result := do
  let (letters, args) ← takeOptions "p" args
  if args.isEmpty || letters.contains 'p' then
    done (st.write 1 (octets (listed word st (names st)))) 0
  else
    let st ← args.foldlM (fun st arg => do
      let (name, value) := splitSetting arg
      if !isName name.toList then throw (name ++ ": bad variable name")
      let st ← match value with
        | some value => st.assign name value
        | none => pure st
      return mark st name) st
    done st 0

def handOn (st : State) (args : List String) : Result :=
  declare "export" State.exported (fun st name => { st with exported := name :: st.exported }) st
    args

def freeze (st : State) (args : List String) : Result :=
  declare "readonly" State.readOnly (fun st name => { st with readOnly := name :: st.readOnly }) st
    args

def makeLocal (st : State) (args : List String) : Result := do
  match st.saved with
  | [] => throw "not in a function"
  | frame :: outer =>
    let (st, frame) ← args.foldlM (fun (st, frame) arg => do
      let (name, value) := splitSetting arg
      if !isName name.toList then throw (name ++ ": bad variable name")
      let frame := (name, st.env.get? name) :: frame
      match value with
      | some value => return (← st.assign name value, frame)
      | none => return (st, frame)) (st, frame)
    done { st with saved := frame :: outer } 0

def unset (st : State) (args : List String) : Result := do
  let (letters, args) ← takeOptions "fv" args
  let st ← args.foldlM (fun st name => do
    if letters.getLast? = some 'f' then
      return { st with functions := st.functions.filter fun f => f.1 ≠ name }
    else if !isName name.toList then throw (name ++ ": bad variable name")
    else if st.readOnly.contains name then throw (name ++ ": is read only")
    else return st.forget name) st
  done st 0

def optionRows : List (Option Char × String) :=
  optionNames.map (fun (c, name) => (some c, name)) ++
    [(none, "privileged"), (none, "nolog"), (none, "debug")]

def optionTable (asCommands : Bool) (st : State) : String :=
  let rows := optionRows.map fun (c, name) =>
    let on := c.any st.has
    if asCommands then "set " ++ (if on then "-o " else "+o ") ++ name ++ "\n"
    else name ++ String.ofList (List.replicate (16 - name.length) ' ') ++
      (if on then "on" else "off") ++ "\n"
  (if asCommands then "" else "Current option settings\n") ++ String.join rows

/-- Switches options by their letters and names, and gives the arguments that are left if there are
any or if they are to be replaced. -/
def switchAll (st : State) : Nat → List String → Except String (State × Option (List String))
  | 0, _ | _, [] => .ok (st, none)
  | fuel + 1, word :: rest =>
    match word.toList with
    | ['-', '-'] => .ok (st, some rest)
    | sign :: c :: cs =>
      if sign ≠ '-' && sign ≠ '+' then .ok (st, some (word :: rest))
      else
        let on := sign = '-'
        match (c :: cs).find? fun c => c ≠ 'o' && !(optionNames.any fun o => o.1 = c) with
        | some bad => .error ("Illegal option -" ++ toString bad)
        | none =>
          let st := ((c :: cs).filter (· ≠ 'o')).foldl (fun st c => st.switch c on) st
          match (c :: cs).contains 'o', rest with
          | false, rest => switchAll st fuel rest
          | true, [] => .ok (st.write 1 (octets (optionTable (!on) st)), none)
          | true, name :: rest =>
            match optionRows.find? fun o => o.2 = name with
            | some (some c, _) => switchAll (st.switch c on) fuel rest
            | some (none, _) => switchAll st fuel rest
            | none => .error ("Illegal option -o " ++ name)
    | _ => .ok (st, some (word :: rest))

def setOptions (st : State) (args : List String) : Result := do
  if args.isEmpty then
    let lines := (st.env.pairs.mergeSort fun a b => a.1 ≤ b.1).map fun p =>
      p.1 ++ "=" ++ shownValue p.2 ++ "\n"
    done (st.write 1 (octets (String.join lines))) 0
  else
    let (st, given) ← switchAll st (args.length + 1) args
    done { st with args := given.getD st.args } 0

def shift (st : State) (args : List String) : Result := do
  let n ← match args with
    | [] => pure 1
    | word :: _ => number word
  if st.args.length < n then throw "can't shift that many"
  else done { st with args := st.args.drop n } 0

/-- A line of an input, in letters of which some are quoted, whether it has an end, and what
follows. -/
def takeLine (raw : Bool) : List Char → List Letter × Bool × List Char
  | [] => ([], false, [])
  | '\n' :: cs => ([], true, cs)
  | c :: cs =>
    match raw, c, cs with
    | false, '\\', '\n' :: cs => takeLine raw cs
    | false, '\\', c :: cs =>
      let (ls, ended, rest) := takeLine raw cs
      (⟨c, true⟩ :: ls, ended, rest)
    | _, c, cs =>
      let (ls, ended, rest) := takeLine raw cs
      (⟨c, false⟩ :: ls, ended, rest)

def lineValues (separators : List Char) : Nat → List Letter → List String
  | 0, _ => []
  | n + 1, ls =>
    let separates := fun (l : Letter) => !l.quoted && separators.contains l.char
    let blank := fun (l : Letter) => separates l && [' ', '\t', '\n'].contains l.char
    let ls := ls.dropWhile blank
    let value := ls.takeWhile fun l => !separates l
    let rest := (ls.drop value.length).dropWhile blank
    let rest := if rest.head?.any separates then rest.drop 1 else rest
    if n = 0 then
      let whole := (ls.reverse.dropWhile blank).reverse
      let only := if (rest.dropWhile blank).isEmpty then value else whole
      [String.ofList (charsOf only)]
    else String.ofList (charsOf value) :: lineValues separators n rest

def withoutPrompt : List String → List String
  | "-r" :: rest => "-r" :: withoutPrompt rest
  | "-p" :: _ :: rest => withoutPrompt rest
  | rest => rest

def read (st : State) (args : List String) : Result := do
  let (letters, names) ← takeOptions "r" (withoutPrompt args)
  if names.isEmpty then throw "arg count"
  let input := Text.Utf8.decodeLossy (st.unread 0)
  let (ls, ended, rest) := takeLine (letters.contains 'r') input
  let st := st.leave 0 (Text.Utf8.encode rest)
  let values := lineValues st.separators names.length ls
  let st ← (names.zip values).foldlM (fun st (name, value) => do
    if !isName name.toList then throw (name ++ ": bad variable name")
    st.assign name value) st
  done st (if ended then 0 else 1)

def permissions (bits : Nat) : String :=
  (if bits / 4 % 2 = 1 then "r" else "") ++ (if bits / 2 % 2 = 1 then "w" else "") ++
    if bits % 2 = 1 then "x" else ""

def mask (st : State) (args : List String) : Result := do
  let (letters, args) ← takeOptions "S" args
  let given := 511 - st.mask
  match args with
  | [] =>
    let ds := Nat.toDigits 8 st.mask
    let octal := String.ofList (List.replicate (4 - ds.length) '0' ++ ds)
    let symbols := "u=" ++ permissions (given / 64) ++ ",g=" ++ permissions (given / 8) ++ ",o=" ++
      permissions given
    done (st.say (if letters.contains 'S' then symbols else octal)) 0
  | word :: _ =>
    let ds := Machine.digitsOf 8 word.toList
    if ds.length = word.length then done { st with mask := Machine.ofDigits 8 ds % 512 } 0
    else throw ("Illegal number: " ++ word)

def trap (st : State) (args : List String) : Result := do
  let (_, args) ← takeOptions "" args
  match args with
  | [] =>
    let lines := (st.traps.mergeSort fun a b => a.1 ≤ b.1).map fun (n, action) =>
      "trap -- " ++ shownValue action ++ " " ++ signalName n ++ "\n"
    done (st.write 1 (octets (String.join lines))) 0
  | first :: rest =>
    let (action, words) := match rest with
      | [] => (none, [first])
      | rest => (if first = "-" then none else some first, rest)
    match words.find? fun w => (signal? w).isNone with
    | some bad => done (st.write 2 (octets ("trap: " ++ bad ++ ": bad trap\n"))) 1
    | none =>
      let concerned := words.filterMap signal?
      let others := st.traps.filter fun t => !concerned.contains t.1
      let added := action.elim [] fun a => concerned.map fun n => (n, a)
      done { st with traps := added ++ others } 0

def killUsage : String :=
  "Usage: kill [-s sigspec | -signum | -sigspec] [pid | job]... or\nkill -l [exitstatus]"

def killArgs : List String → Except String (Nat × List String)
  | [] => .error killUsage
  | ["-s"] => .error "No arg for -s option"
  | "-s" :: word :: pids => do return (← signalOf word, pids)
  | "--" :: pids => .ok (15, pids)
  | word :: pids =>
    match word.toList with
    | '-' :: c :: cs =>
      match signal? (String.ofList (c :: cs)) with
      | some n => .ok (n, pids)
      | none => do
        if c ≠ 's' then throw ("Illegal option -" ++ toString c)
        return (← signalOf (String.ofList cs), pids)
    | _ => .ok (15, word :: pids)
where
  signalOf (word : String) : Except String Nat :=
    match signal? word with
    | some n => .ok n
    | none => .error ("invalid signal number or name: " ++ word)

def process (word : String) : Except String Int :=
  match integer? false word with
  | some n => .ok n
  | none => .error ((if word.startsWith "%" then "No such job: " else "Illegal number: ") ++ word)

def signalList : String :=
  String.join ((List.range (lastSignal + 1)).map fun n =>
    (if n = 0 then "0" else signalName n) ++ "\n")

def killJob (signal : Nat) (st : State) (n : Nat) : State :=
  let killed := if harmless.contains signal then st.jobs
    else st.jobs.map fun job => if job.1 = n then (n, .killed signal) else job
  { st with jobs := killed }

def killShell (signal : Nat) (st : State) : Flow × State :=
  match (st.outer.getD st.traps).lookup signal with
  | some action =>
    if unstoppable.contains signal then (.killed signal, st)
    else if action = "" then (.goesOn, st)
    else (.goesOn, { st with pending := st.pending ++ [signal] })
  | none => (if harmless.contains signal then .goesOn else .killed signal, st)

/-- Sends a signal to processes one after the other. The shell can reach itself, and the commands that
it did not wait for. -/
def killAll (signal : Nat) (st : State) : List String → Flow × State
  | [] => (.goesOn, st)
  | word :: rest =>
    match process word with
    | .error text => (.goesOn, st.failing 2 text)
    | .ok n =>
      if n = (st.pid : Int) then
        match killShell signal st with
        | (.goesOn, st) => killAll signal st rest
        | stopped => stopped
      else if st.jobs.any fun job => (job.1 : Int) = n then
        killAll signal (killJob signal st n.toNat) rest
      else killAll signal (st.failing 1 "No such process\n") rest

def kill (st : State) (args : List String) : Result := do
  match args with
  | ["-l"] => done (st.write 1 (octets signalList)) 0
  | "-l" :: word :: _ =>
    let n ← number word
    done (st.say (signalName (if 128 < n then n - 128 else n))) 0
  | args =>
    let (signal, pids) ← killArgs args
    if pids.isEmpty then throw killUsage
    else return killAll signal (st.ending 0) pids

def wait (st : State) (args : List String) : Result := do
  if args.isEmpty then
    let told := st.jobs.reverse.foldl (fun st job => st.reap job.2) st
    done { told with jobs := [] } 0
  else
    let st ← args.foldlM (fun st word => do
      let n := (← process word).toNat
      return match st.jobs.lookup n with
        | some t => { st.reap t with jobs := st.jobs.filter fun job => job.1 ≠ n }
        | none => st.ending 127) st
    .ok (.goesOn, st)

inductive Meaning where
  | word
  | special
  | function (body : Command)
  | builtIn
  | program (path : String)

def regularNames : List String :=
  ["alias", "bg", "cd", "chdir", "command", "fg", "hash", "jobs", "kill", "local", "pwd", "read",
    "type", "ulimit", "umask", "unalias", "wait"]

def isRegular (name : String) : Bool :=
  regularNames.contains name || (Utility.builtIn? name).isSome

def lookUp (st : State) (name : String) : Except Errno String :=
  if name.toList.contains '/' then .ok name
  else
    let directories := Text.splitAt ':' ((st.env.get? "PATH").getD "").toList
    let rec go (refused : Errno) : List (List Char) → Except Errno String
      | [] => .error refused
      | directory :: rest =>
        let path := if directory.isEmpty then (if name = "" then "." else name)
          else String.ofList directory ++ "/" ++ name
        match st.world.get path with
        | .ok (.file _ _) => .ok path
        | .ok .directory => go .accessDenied rest
        | .error .notFound | .error .notDirectory => go refused rest
        | .error e => go e rest
    go .notFound directories

def meaning? (st : State) (name : String) : Option Meaning :=
  if reserved.contains name then some .word
  else if specialNames.contains name then some .special
  else match st.functions.lookup name, isRegular name, lookUp st name with
    | some body, _, _ => some (.function body)
    | none, true, _ => some .builtIn
    | none, false, .ok path =>
      if (st.world.get path).toOption.isSome then some (.program path) else none
    | none, false, .error _ => none

def described (name : String) : Option Meaning → String
  | some .word => name ++ " is a shell keyword"
  | some .special => name ++ " is a special shell builtin"
  | some (.function _) => name ++ " is a shell function"
  | some .builtIn => name ++ " is a shell builtin"
  | some (.program path) => name ++ " is " ++ path
  | none => name ++ ": not found"

def describe (st : State) (args : List String) : Result :=
  let told := args.foldl (fun told name => told.say (described name (meaning? st name))) st
  done told (if args.all fun name => (meaning? st name).isSome then 0 else 127)

def locate (st : State) (name : String) : Result :=
  match meaning? st name with
  | some (.program path) => done (st.say path) 0
  | some _ => done (st.say name) 0
  | none => done st 127

def hash (st : State) (args : List String) : Result :=
  let missing := args.filter fun name => (meaning? st name).isNone
  done (missing.foldl (fun st name => st.complain (name ++ ": not found")) st)
    (if missing.isEmpty then 0 else 1)

def limit (st : State) (args : List String) : Result := do
  let (letters, args) ← takeOptions "HSacdefilmnpqrstuvwx" args
  done (if args.isEmpty || letters.isEmpty then st.say "unlimited" else st) 0

def times (st : State) : Result :=
  done ((st.say "0m0.000000s 0m0.000000s").say "0m0.000000s 0m0.000000s") 0

def named? (name : String) : Option (State → List String → Result) :=
  match name with
  | ":" => some fun st _ => done st 0
  | "exit" => some leaveShell
  | "return" => some leaveFunction
  | "break" => some (leaveLoops false)
  | "continue" => some (leaveLoops true)
  | "cd" | "chdir" => some changeDirectory
  | "pwd" => some sayDirectory
  | "export" => some handOn
  | "readonly" => some freeze
  | "local" => some makeLocal
  | "unset" => some unset
  | "set" => some setOptions
  | "shift" => some shift
  | "read" => some read
  | "umask" => some mask
  | "trap" => some trap
  | "kill" => some kill
  | "wait" => some wait
  | "type" => some describe
  | "hash" => some hash
  | "ulimit" => some limit
  | "times" => some fun st _ => times st
  | "jobs" | "alias" | "unalias" => some fun st _ => done st 0
  | "bg" | "fg" => some fun _ _ => .error "No current job"
  | _ => none

end Builtin

end Stepwise.Shell
