import Stepwise.Shell.Builtin

/-!
Running shell commands. A command is a function, a built-in one, a utility that is built in, or a
program, and how programs are started is given. Every step uses up fuel; a shell that has none left
is killed.
-/
namespace Stepwise.Shell

open Machine (Effect Termination Utility octets sinkPath)

/-- Starts a program by its name, with its arguments, the directories to look for it in, its
variables and its input. -/
abbrev Launch :=
  String → List String → Option String → Env → List UInt8 → World → Except Errno Effect

/-- Where a command stands: whether the shell looks at its failure, and whether it is the last thing
that the shell runs. -/
structure Mode where
  tested : Bool
  last : Bool

def Mode.followed (m : Mode) : Mode := { m with last := false }

def Mode.asked : Mode := ⟨true, false⟩

def State.after (st : State) (e : Effect) : State :=
  let st := { st with world := { e.world with home := st.world.home } }
  let st := st.leave 0 e.unread
  (e.written.foldl (fun st part => st.write part.1 part.2) st).ending (statusOf e.ended)

def State.flow (st : State) (mode : Mode) : Flow :=
  if st.has 'e' && !mode.tested && st.status ≠ 0 then .ends (.exited st.status) else .goesOn

def onwards (r : Flow × State) (next : State → Flow × State) : Flow × State :=
  match r with
  | (.goesOn, st) => next st
  | stopped => stopped

def giveUp (st : State) (text : String) : Flow × State :=
  (.ends (.exited 2), st.failing 2 text)

def State.written (st : State) (index : Nat) : List UInt8 :=
  (st.logs[index]?.getD []).reverse.flatMap Prod.snd

def channelOfPath? (path : String) : Option Nat :=
  match path with
  | "/dev/stdin" => some 0
  | "/dev/stdout" => some 1
  | "/dev/stderr" => some 2
  | path => if path.startsWith "/dev/fd/" then (path.drop 8).toNat? else none

def openOutput (st : State) (channel : Nat) (kind : RedirectKind) (path : String) :
    Except String State :=
  let refused := fun (text : String) => .error ("cannot create " ++ path ++ ": " ++ text)
  match st.world.placeFor path with
  | .error .notFound | .error .notDirectory => refused "Directory nonexistent"
  | .error e => refused e.text
  | .ok place =>
    if place = sinkPath then .ok (st.lead channel (some .nowhere))
    else match st.world.at? place with
      | some .directory => refused Errno.isDirectory.text
      | some (.file old executable) =>
        if kind = .output && st.has 'C' then refused "File exists"
        else
          let entry := Entry.file (if kind = .append then old else []) executable
          .ok ({ st with world := st.world.put place entry }.lead channel (some (.file place)))
      | none =>
        .ok ({ st with world := st.world.put place (.file [] false) }.lead channel
          (some (.file place)))

def openInput (st : State) (channel : Nat) (path : String) : Except String State :=
  match st.world.read path with
  | .ok bytes => .ok (st.feed channel bytes)
  | .error .isDirectory => .ok (st.feed channel [])
  | .error .notFound | .error .notDirectory => .error ("cannot open " ++ path ++ ": No such file")
  | .error e => .error ("cannot open " ++ path ++ ": " ++ e.text)

def redirect (st : State) (r : Redirection) (target : String) : Except String State :=
  match r.kind, channelOfPath? target with
  | .copy, _ =>
    if target = "-" then .ok (st.lead r.channel none)
    else match st.port? (target.toNat?.getD 0) with
      | some port => .ok (st.lead r.channel (some port))
      | none => .error (target ++ ": Bad file descriptor")
  | .document, _ => .ok (st.feed r.channel (octets target))
  | .input, some n => .ok (st.lead r.channel (st.port? n))
  | _, some n => .ok (st.lead r.channel (st.port? n))
  | .input, none | .both, none => openInput st r.channel target
  | kind, none => openOutput st r.channel kind target

/-- All channels led elsewhere, one after the other, up to the first that cannot be, and why. -/
def redirectAll (st : State) : List (Redirection × String) → State × Option String
  | [] => (st, none)
  | (r, target) :: rest =>
    match redirect st r target with
    | .ok st => redirectAll st rest
    | .error text => (st, some text)

def State.closing (st before : State) (rs : List Redirection) : State :=
  rs.foldl (fun st r => st.lead r.channel (before.port? r.channel)) st

def expandTargets (run : Runner) (st : State) :
    List Redirection → Except String (List (Redirection × String) × State)
  | [] => .ok ([], st)
  | r :: rest => do
    let (target, st) ← expandText run st r.target
    if r.kind = .copy && target ≠ "-" && !(target.length = 1 && target.toList.all Char.isDigit) then
      throw "Syntax error: Bad fd number"
    let (targets, st) ← expandTargets run st rest
    return ((r, target) :: targets, st)

def expandSettings (run : Runner) (st : State) :
    List (String × Word) → Except String (List (String × String) × State)
  | [] => .ok ([], st)
  | (name, w) :: rest => do
    let (value, st) ← expandText run st w
    let st ← st.assign name value
    let (settings, st) ← expandSettings run st rest
    return ((name, value) :: settings, st)

def State.trace (st : State) (before : State) (settings : List (String × String))
    (fields : List String) : State :=
  if st.has 'x' then
    let sign := (st.env.get? "PS4").getD "+ "
    let words := settings.map (fun s => s.1 ++ "=" ++ s.2) ++ fields
    st.send (before.port? 2) (octets (sign ++ " ".intercalate words ++ "\n"))
  else st

def launchProblem (name : String) : Errno → String × Nat
  | .notFound | .notDirectory => (name ++ ": not found", 127)
  | .nameTooLong => (name ++ ": " ++ Errno.nameTooLong.text, 127)
  | e => (name ++ ": " ++ e.text, 126)

def shellPath : String := "/bin/sh"

def launchProgram (launch : Launch) (st : State) (path name : String) (args : List String) :
    Except Errno Effect :=
  let go := fun name args =>
    launch name args (st.env.get? "PATH") st.handedOn (st.unread 0) st.world
  match go name args with
  | .error .noExecutable => go shellPath (path :: args)
  | result => result

def runProgram (launch : Launch) (mode : Mode) (st : State) (name : String) (args : List String) :
    Flow × State :=
  match Builtin.lookUp st name with
  | .error e => (.goesOn, st.failing 127 (launchProblem name e).1)
  | .ok path =>
    match launchProgram launch st path name args with
    | .ok e =>
      let after := st.after e
      if mode.last && st.traps.isEmpty then (.ends e.ended, after)
      else (.goesOn, after.reap e.ended)
    | .error e =>
      let (text, code) := launchProblem name e
      (.goesOn, st.failing code text)

def becomeProgram (launch : Launch) (st : State) (name : String) (args : List String) :
    Flow × State :=
  let refused := fun (e : Errno) =>
    let (text, code) := launchProblem name e
    (Flow.ends (.exited code), st.failing code text)
  match Builtin.lookUp st name with
  | .error e => refused e
  | .ok path =>
    match launchProgram launch st path name args with
    | .ok e => (.ends e.ended, { st.after e with traps := [] })
    | .error e => refused e

def runUtility (u : Utility) (st : State) (name : String) (args : List String) : State :=
  let st := { st with running := some name }
  let e := u.run true st.who args (st.unread 0) st.world
  if !(e.on 1).isEmpty && (st.port? 1).isNone then st.failing 1 (name ++ ": I/O error")
  else st.after e

/-- A shell that begins in another one, and runs nothing for signals except that it leaves some out
of account. -/
def State.inner (st : State) : State :=
  { st with
    traps := st.traps.filter fun t => t.2 = ""
    outer := some (st.outer.getD st.traps) }

def State.afterInner (st inner : State) : State :=
  { st with
    world := { inner.world with home := st.world.home }
    inputs := inner.inputs
    logs := inner.logs
    pending := inner.pending
    doomed := inner.doomed }

def callLimit : Nat := 1000

def tooManyCalls : String :=
  "Maximum function recursion depth (" ++ toString callLimit ++ ") reached"

inductive CommandUse where
  | run (words : List String)
  | locate (name : String)
  | describe (names : List String)

def commandUse (args : List String) : Except String CommandUse := do
  let (letters, words) ← Builtin.takeOptions "pvV" args
  match letters.contains 'v', letters.contains 'V', words with
  | true, _, name :: _ => return .locate name
  | _, true, name :: _ => return .describe [name]
  | true, _, [] | _, true, [] => return .run []
  | false, false, words => return .run words

/-- The file that a script is read from: one that is named by a path, or that is on the path of the
shell. -/
def scriptFile (st : State) (name : String) : Except String (String × List UInt8) :=
  match Builtin.lookUp st name with
  | .error _ => .error (name ++ ": not found")
  | .ok path =>
    match st.world.read path with
    | .ok bytes => .ok (path, bytes)
    | .error .isDirectory => .ok (path, [])
    | .error .notFound | .error .notDirectory => .error ("cannot open " ++ path ++ ": No such file")
    | .error e => .error ("cannot open " ++ path ++ ": " ++ e.text)

abbrev Script := List Command × Option (Nat × Problem)

mutual

def run (launch : Launch) (mode : Mode) (c : Command) (st : State) (fuel : Nat) : Flow × State :=
  match fuel with
  | 0 => (.ends (.killed 9), st)
  | fuel + 1 =>
    let go := fun (mode : Mode) (c : Command) (st : State) => run launch mode c st fuel
    let runner : Runner := fun ts st => runOutput launch ts st fuel
    let checked := fun (r : Flow × State) =>
      onwards r fun st => onwards (serve launch st fuel) fun st => (st.flow mode, st)
    let alone := fun (c : Command) (st : State) =>
      runInner launch { mode with last := true } 0 c [] st fuel
    let andThen := fun (wanted : Bool) (first second : Command) =>
      onwards (go .asked first st) fun st =>
        if (st.status = 0) = wanted then go mode second st else (.goesOn, st)
    if st.has 'n' then (.goesOn, st)
    else match c with
    | .nothing => (.goesOn, st.ending 0)
    | .simple line settings words redirections =>
      checked (runSimple launch mode settings words redirections
        { st with line := line, outputStatus := 0 } fuel)
    | .sequence first second =>
      onwards (go mode.followed first st) (go mode second)
    | .both first second => andThen true first second
    | .either first second => andThen false first second
    | .negated c =>
      onwards (go .asked c st) fun st => (.goesOn, st.ending (if st.status = 0 then 1 else 0))
    | .pipe first second =>
      let index := st.logs.length
      let piped := { st with logs := st.logs ++ [[]] }.lead 1 (some (.log index 1))
      checked (onwards (alone first piped) fun left =>
        let fed := { left with logs := left.logs.take index, channels := st.channels }.feed 0
          (left.written index)
        let (flow, right) := match second with
          | .pipe _ _ => go ⟨true, true⟩ second fed
          | _ => alone second fed
        (flow, { right with
          channels := st.channels
          inputs := right.inputs.take st.inputs.length }))
    | .background c =>
      let r := go ⟨false, true⟩ c (st.lead 0 (some .nowhere)).inner
      match finish launch r fuel with
      | (.ends t, inner) =>
        let count := st.started + 1
        let jobs := (st.pid + count, t) :: st.jobs
        (.goesOn, { st.afterInner inner with jobs := jobs, started := count, status := 0 })
      | (flow, inner) => (flow, st.afterInner inner)
    | .subshell line c redirections =>
      if mode.last && st.traps.isEmpty then
        let r := runLed launch mode line c redirections st.inner fuel
        let (flow, inner) := finish launch r fuel
        (flow, st.afterInner inner)
      else checked (runInner launch { mode with last := true } line c redirections st fuel)
    | .redirected line c redirections =>
      let (flow, after) := runLed launch mode.followed line c redirections st fuel
      (flow, after.closing st redirections)
    | .choice condition yes no =>
      onwards (go .asked condition st) fun st => go mode (if st.status = 0 then yes else no) st
    | .loop whileFails condition body =>
      let (flow, after) := runLoop launch mode.followed whileFails condition body 0
        { st with loops := st.loops + 1 } fuel
      (flow, { after with loops := st.loops })
    | .each line name words body =>
      let st := { st with line := line }
      match expandWords runner st words with
      | .error text => giveUp st text
      | .ok (fields, st) =>
        let (flow, after) := runEach launch mode.followed name body fields
          { st with loops := st.loops + 1, status := 0 } fuel
        (flow, { after with loops := st.loops })
    | .select line subject clauses =>
      let st := { st with line := line }
      match expandText runner st subject with
      | .error text => giveUp st text
      | .ok (text, st) => runClauses launch mode text.toList clauses st fuel
    | .function name body =>
      let others := st.functions.filter fun f => f.1 ≠ name
      (.goesOn, { st with functions := (name, body) :: others, status := 0 })
  termination_by structural fuel

/-- Runs a command with its arguments, the variables that are set for it and the channels that are
led elsewhere for it. -/
def runSimple (launch : Launch) (mode : Mode) (settings : List (String × Word))
    (words : List Word) (redirections : List Redirection) (st : State) (fuel : Nat) :
    Flow × State :=
  match fuel with
  | 0 => (.ends (.killed 9), st)
  | fuel + 1 =>
    let runner : Runner := fun ts st => runOutput launch ts st fuel
    match expandWords runner st words with
    | .error text => giveUp st text
    | .ok (fields, st) =>
      match expandTargets runner st redirections with
      | .error text => giveUp st text
      | .ok (targets, st) =>
        let special := fields.head?.any specialNames.contains
        match redirectAll st targets with
        | (opened, some text) =>
          let failed := (opened.failing 2 text).closing st redirections
          (if special then .ends (.exited 2) else .goesOn, failed)
        | (opened, none) =>
          match expandSettings runner opened settings with
          | .error text => giveUp opened text
          | .ok (values, set) =>
            let set := set.trace st values fields
            match set.doomed, fields with
            | some signal, _ => (.killed signal, set)
            | none, [] => (.goesOn, (set.ending set.outputStatus).closing st redirections)
            | none, name :: args =>
              let names := settings.map Prod.fst
              let handed := { set with exported := names ++ set.exported }
              let (flow, after) := runNamed launch mode true name args handed fuel
              let kept := name = "exec" && args.isEmpty
              let after := if kept then after else after.closing st redirections
              if special then (flow, after)
              else
                let after := names.foldl (fun after n => after.restore n (opened.env.get? n)) after
                (flow, if names.isEmpty then after else
                  { after with exported := opened.exported })
  termination_by structural fuel

/-- Runs a command by its name. With `whole`, it may be a function, and may end the shell where it
fails. -/
def runNamed (launch : Launch) (mode : Mode) (whole : Bool) (name : String) (args : List String)
    (st : State) (fuel : Nat) : Flow × State :=
  match fuel with
  | 0 => (.ends (.killed 9), st)
  | fuel + 1 =>
    let within := { st with running := some name }
    let special := specialNames.contains name || name = "local"
    let built := fun (r : Builtin.Result) =>
      match r with
      | .ok (flow, after) => (flow, { after with running := st.running })
      | .error text =>
        let failed := { within.failing 2 text with running := st.running }
        (if special && whole then Flow.ends (.exited 2) else .goesOn, failed)
    match name, args with
    | "eval", args =>
      let script := readScript (" ".intercalate args).toList
      let (flow, after) := runScript launch mode.followed script (within.ending 0) fuel
      (flow, { after with running := st.running })
    | ".", [] => (.goesOn, st.ending 0)
    | ".", file :: _ =>
      match scriptFile st file with
      | .error text => built (.error text)
      | .ok (path, bytes) =>
        let script := readScript (Text.Utf8.decodeLossy bytes)
        let (flow, after) := runScript launch ⟨false, false⟩ script
          { st with running := some path, status := 0 } fuel
        (if flow = .returns then .goesOn else flow, { after with running := st.running })
    | "exec", [] => (.goesOn, st.ending 0)
    | "exec", name :: args => becomeProgram launch within name args
    | "command", args =>
      match commandUse args with
      | .error text => built (.error text)
      | .ok (.run []) => (.goesOn, st.ending 0)
      | .ok (.run (name :: args)) => runNamed launch mode false name args st fuel
      | .ok (.locate name) => built (Builtin.locate st name)
      | .ok (.describe names) => built (Builtin.describe st names)
    | name, args =>
      match Builtin.named? name, (st.functions.lookup name).filter fun _ => whole,
        Utility.builtIn? name with
      | some act, none, _ => built (act within args)
      | _, some body, _ => runFunction launch mode body args st fuel
      | none, none, some u =>
        (.goesOn, { runUtility u st name args with running := st.running })
      | none, none, none => runProgram launch mode st name args
  termination_by structural fuel

def runFunction (launch : Launch) (mode : Mode) (body : Command) (args : List String) (st : State)
    (fuel : Nat) : Flow × State :=
  match fuel with
  | 0 => (.ends (.killed 9), st)
  | fuel + 1 =>
    if callLimit ≤ st.calls then giveUp st tooManyCalls
    else
      let (flow, after) := run launch mode.followed body
        { st with args := args, loops := 0, calls := st.calls + 1, saved := [] :: st.saved } fuel
      let frame := after.saved.headD []
      let after := frame.foldl (fun after old => after.restore old.1 old.2) after
      (match flow with
        | .returns | .leaves _ _ => .goesOn
        | flow => flow,
        { after with args := st.args, loops := st.loops, calls := st.calls, saved := st.saved })
  termination_by structural fuel

def runLoop (launch : Launch) (mode : Mode) (whileFails : Bool) (condition body : Command)
    (status : Nat) (st : State) (fuel : Nat) : Flow × State :=
  match fuel with
  | 0 => (.ends (.killed 9), st)
  | fuel + 1 =>
    let holds := fun (st : State) => (st.status = 0) ≠ whileFails
    match run launch .asked condition st fuel with
    | (.goesOn, st) =>
      if holds st then
        match run launch mode body st fuel with
        | (.goesOn, st) | (.leaves 1 true, st) =>
          runLoop launch mode whileFails condition body st.status st fuel
        | (.leaves 1 false, st) => (.goesOn, st)
        | (.leaves n again, st) => (.leaves (n - 1) again, st)
        | stopped => stopped
      else (.goesOn, st.ending status)
    | (.leaves 1 true, st) => runLoop launch mode whileFails condition body status st fuel
    | (.leaves 1 false, st) => (.goesOn, st)
    | (.leaves n again, st) => (.leaves (n - 1) again, st)
    | stopped => stopped
  termination_by structural fuel

def runEach (launch : Launch) (mode : Mode) (name : String) (body : Command)
    (values : List String) (st : State) (fuel : Nat) : Flow × State :=
  match fuel with
  | 0 => (.ends (.killed 9), st)
  | fuel + 1 =>
    match values with
    | [] => (.goesOn, st)
    | value :: rest =>
      match st.assign name value with
      | .error text => giveUp st text
      | .ok st =>
        match run launch mode body st fuel with
        | (.goesOn, st) | (.leaves 1 true, st) => runEach launch mode name body rest st fuel
        | (.leaves 1 false, st) => (.goesOn, st)
        | (.leaves n again, st) => (.leaves (n - 1) again, st)
        | stopped => stopped
  termination_by structural fuel

def runClauses (launch : Launch) (mode : Mode) (text : List Char)
    (clauses : List (List Word × Command)) (st : State) (fuel : Nat) : Flow × State :=
  match fuel with
  | 0 => (.ends (.killed 9), st)
  | fuel + 1 =>
    match clauses with
    | [] => (.goesOn, st.ending 0)
    | ([], _) :: rest => runClauses launch mode text rest st fuel
    | (w :: ws, body) :: rest =>
      match expandLetters (fun ts st => runOutput launch ts st fuel) st w with
      | .error text => giveUp st text
      | .ok (ls, st) =>
        if fits (pattern ls) text then run launch mode body st fuel
        else runClauses launch mode text ((ws, body) :: rest) st fuel
  termination_by structural fuel

def runLed (launch : Launch) (mode : Mode) (line : Nat) (c : Command)
    (redirections : List Redirection) (st : State) (fuel : Nat) : Flow × State :=
  match fuel with
  | 0 => (.ends (.killed 9), st)
  | fuel + 1 =>
    let st := { st with line := if redirections.isEmpty then st.line else line }
    match expandTargets (fun ts st => runOutput launch ts st fuel) st redirections with
    | .error text => giveUp st text
    | .ok (targets, st) =>
      match redirectAll st targets with
      | (opened, some text) => (.goesOn, opened.failing 2 text)
      | (opened, none) => run launch mode c opened fuel
  termination_by structural fuel

def runInner (launch : Launch) (mode : Mode) (line : Nat) (c : Command)
    (redirections : List Redirection) (st : State) (fuel : Nat) : Flow × State :=
  match fuel with
  | 0 => (.ends (.killed 9), st)
  | fuel + 1 =>
    match finish launch (runLed launch mode line c redirections st.inner fuel) fuel with
    | (.ends t, inner) => (.goesOn, (st.afterInner inner).reap t)
    | (flow, inner) => (flow, st.afterInner inner)
  termination_by structural fuel

def runOutput (launch : Launch) (ts : Tokens) (st : State) (fuel : Nat) : List Char × State :=
  match fuel with
  | 0 => ([], st)
  | fuel + 1 =>
    match readWhole ts with
    | .error (line, problem) =>
      let st := { st with line := line }.failing 2 problem.message
      ([], { st with outputStatus := 2 })
    | .ok c =>
      let index := st.logs.length
      let piped := { st with logs := st.logs ++ [[]] }.lead 1 (some (.log index 1))
      let (flow, after) := runInner launch ⟨false, true⟩ 0 c [] piped fuel
      let doomed := match flow with
        | .killed signal => some signal
        | _ => none
      (Text.Utf8.decodeLossy (after.written index),
        { after with
          channels := st.channels, logs := after.logs.take index, doomed := doomed <|> st.doomed
          outputStatus := after.status })
  termination_by structural fuel

def serve (launch : Launch) (st : State) (fuel : Nat) : Flow × State :=
  match fuel with
  | 0 => (.ends (.killed 9), st)
  | fuel + 1 =>
    match st.outer, st.pending with
    | none, signal :: rest =>
      let st := { st with pending := rest }
      let script := readScript ((st.traps.lookup signal).getD "").toList
      onwards (runScript launch ⟨false, false⟩ script st fuel) fun after =>
        serve launch (after.ending st.status) fuel
    | _, _ => (.goesOn, st)
  termination_by structural fuel

def finish (launch : Launch) (r : Flow × State) (fuel : Nat) : Flow × State :=
  match fuel with
  | 0 => (.ends (.killed 9), r.2)
  | fuel + 1 =>
    let atEnd := fun (code : Nat) (st : State) =>
      match st.traps.lookup 0 with
      | some action =>
        let st := { st with traps := st.traps.filter (·.1 ≠ 0), status := code, loops := 0 }
        match runScript launch ⟨false, false⟩ (readScript action.toList) st fuel with
        | (.ends t, after) => (Flow.ends t, after)
        | (.killed signal, after) => (.killed signal, after)
        | (_, after) => (.ends (.exited code), after)
      | none => (.ends (.exited code), st)
    match r with
    | (.killed signal, st) => (.killed signal, st)
    | (.ends (.killed signal), st) => (.ends (.killed signal), st)
    | (.ends (.exited code), st) => atEnd code st
    | (_, st) => atEnd st.status st
  termination_by structural fuel

def runScript (launch : Launch) (mode : Mode) (script : Script) (st : State) (fuel : Nat) :
    Flow × State :=
  match fuel with
  | 0 => (.ends (.killed 9), st)
  | fuel + 1 =>
    match script with
    | ([], none) => (.goesOn, st)
    | ([], some (line, problem)) => giveUp { st with line := line } problem.message
    | ([c], none) => run launch mode c st fuel
    | (c :: rest, problem) =>
      onwards (run launch mode.followed c st fuel) fun st =>
        runScript launch mode (rest, problem) st fuel
  termination_by structural fuel

end

def fuel : Nat := 1000000

def defaultPath : String :=
  "/usr/local/sbin:/usr/local/bin:/usr/sbin:/usr/bin:/sbin:/bin"

/-- What a shell is asked to run: the letters of its options, its script, and the name and arguments
of that. -/
structure Invocation where
  options : List Char
  script : List UInt8
  name : String
  args : List String

def startOptions : Nat → List Char → List String → Except String (List Char × List String)
  | 0, on, args => .ok (on, args)
  | _, on, [] => .ok (on, [])
  | fuel + 1, on, word :: rest =>
    match word.toList with
    | ['-'] | ['-', '-'] => .ok (on, rest)
    | '-' :: cs | '+' :: cs =>
      let known := fun (c : Char) =>
        ['c', 'o', 'l', 's'].contains c || optionNames.any fun o => o.1 = c
      match cs.find? fun c => !known c with
      | some bad => .error ("Illegal option -" ++ toString bad)
      | none =>
        let letters := cs.filter (· ≠ 'o')
        let on := if word.startsWith "-" then letters ++ on else on.filter (!letters.contains ·)
        match cs.contains 'o', rest with
        | true, name :: rest =>
          match optionNames.find? fun o => o.2 = name with
          | some (c, _) => startOptions fuel (c :: on) rest
          | none => .error ("Illegal option -o " ++ name)
        | _, rest => startOptions fuel on rest
    | _ => .ok (on, word :: rest)

def invocation (name : String) (stdin : List UInt8) (w : World) (args : List String) :
    Except String Invocation := do
  let (letters, rest) ← startOptions (args.length + 1) [] args
  let options := letters.filter fun c => optionNames.any fun o => o.1 = c
  match letters.contains 'c', letters.contains 's', rest with
  | true, _, script :: called :: args => return ⟨options, octets script, called, args⟩
  | true, _, [script] => return ⟨options, octets script, name, []⟩
  | true, _, [] => throw "-c requires an argument"
  | false, false, file :: args =>
    match w.read file with
    | .ok bytes => return ⟨options, bytes, file, args⟩
    | .error .isDirectory => return ⟨options, [], file, args⟩
    | .error .notFound | .error .notDirectory => throw ("cannot open " ++ file ++ ": No such file")
    | .error e => throw ("cannot open " ++ file ++ ": " ++ e.text)
  | false, _, args => return ⟨'s' :: options, stdin, name, args⟩

def startState (pid : Nat) (call : Invocation) (env : Env) (stdin : List UInt8) (w : World) :
    State :=
  let known := env.pairs.filter fun p => isName p.1.toList
  let usual := [("PATH", defaultPath), ("OPTIND", "1"), ("PS1", "# "), ("PS2", "> "), ("PS4", "+ ")]
  let here := "/" ++ "/".intercalate w.home
  let env := Env.ofPairs (usual ++ known ++ [("IFS", " \t\n")])
  let given := (env.get? "PWD").filter fun path =>
    path.startsWith "/" && (w.find path).toOption = some w.home
  { name := call.name, args := call.args, env := env.set "PWD" (given.getD here),
    exported := "PWD" :: known.map Prod.fst, readOnly := [], status := 0, outputStatus := 0,
    pid := pid, options := call.options, functions := [], traps := [], pending := [],
    doomed := none, outer := none,
    channels := [(0, .source 0), (1, .log 0 1), (2, .log 0 2)],
    inputs := [if call.options.contains 's' then [] else stdin], logs := [[]], world := w,
    jobs := [], started := 0, running := none, line := 0, loops := 0, calls := 0, saved := [],
    mask := 18 }

def program (launch : Launch) (pid : Nat) (name : String) (args : List String) (env : Env)
    (stdin : List UInt8) (w : World) : Effect :=
  match invocation name stdin w args with
  | .error text => { Effect.complaint w 2 (name ++ ": 0: " ++ text) with unread := stdin }
  | .ok call =>
    let script := Text.Utf8.decodeLossy call.script
    let start := startState pid call env stdin w
    let (flow, st) := finish launch
      (runScript launch ⟨false, false⟩ (readScript script) start fuel) fuel
    { ended := match flow with
        | .ends t => t
        | .killed signal => .killed signal
        | _ => .exited st.status
      written := (st.logs[0]?.getD []).reverse
      unread := st.inputs[0]?.getD []
      world := st.world }

end Stepwise.Shell
