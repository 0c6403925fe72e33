import Stepwise.Machine.Effect

/-!
Work on files: making, listing, copying, moving and removing them. Names that cannot be worked on
are told one by one, and do not stop the work on the others.
-/
namespace Stepwise.Machine.Files

def operands (args : List String) : List String :=
  args.filter fun a => !(a.startsWith "-" && a ≠ "-")

def hasOption (args : List String) (letter : Char) : Bool :=
  args.any fun a => a.startsWith "-" && a ≠ "-" && a.toList.contains letter

def shown (name : String) : String := "'" ++ name ++ "'"

def lastName (path : String) : String :=
  ((Path.names path).filter (· ≠ "")).getLast?.getD path

def each (who : String) (w : World) (names : List String)
    (work : World → String → Except String World) : Effect :=
  let (w, complaints) := names.foldl (fun (acc : World × List String) name =>
    match work acc.1 name with
    | .ok w => (w, acc.2)
    | .error e => (acc.1, acc.2 ++ [who ++ ": " ++ e])) (w, [])
  .complaining w (if complaints.isEmpty then 0 else 1) complaints

def eachOperand (who : String) (missing : String) (w : World) (args : List String)
    (work : World → String → Except String World) : Effect :=
  match operands args with
  | [] => .misuse w 1 who missing
  | names => each who w names work

def touch (w : World) (name : String) : Except String World :=
  match w.get name with
  | .ok _ => .ok w
  | .error _ =>
    match w.write name [] with
    | .ok w => .ok w
    | .error e => .error ("cannot touch " ++ shown name ++ ": " ++ e.text)

def makeDirectory (parents : Bool) (w : World) (name : String) : Except String World :=
  let refused := fun (text : String) =>
    .error ("cannot create directory " ++ shown name ++ ": " ++ text)
  match w.get name, w.placeFor name with
  | .ok .directory, _ => if parents then .ok w else refused "File exists"
  | .ok _, _ => refused "File exists"
  | .error _, .ok place => .ok (w.put place .directory)
  | .error _, .error e =>
    if parents then .ok (w.mkdirs (w.startOf name ++ (World.steps name).filter (· ≠ ".")))
    else refused e.text

def remove (whole forced : Bool) (w : World) (name : String) : Except String World :=
  let refused := fun (text : String) => .error ("cannot remove " ++ shown name ++ ": " ++ text)
  match w.find name, w.get name with
  | .ok place, .ok .directory => if whole then .ok (w.remove place) else refused "Is a directory"
  | .ok place, .ok _ => .ok (w.remove place)
  | .error e, _ | _, .error e => if forced then .ok w else refused e.text

def removeDirectory (w : World) (name : String) : Except String World :=
  let refused := fun (text : String) => .error ("failed to remove " ++ shown name ++ ": " ++ text)
  match w.find name, w.get name with
  | .ok place, .ok .directory =>
    if (w.namesIn place).isEmpty then .ok (w.remove place) else refused "Directory not empty"
  | .ok _, .ok _ => refused "Not a directory"
  | .error e, _ | _, .error e => refused e.text

def changeMode (mode : String) (w : World) (name : String) : Except String World :=
  let octal := mode.toList.all Char.isDigit
  let executable := if octal then mode.toList.any fun c => "1357".toList.contains c
    else (mode.toList.dropWhile fun c => "ugoa".toList.contains c).head? ≠ some '-'
  let concerned := octal || mode.toList.contains 'x'
  match w.find name, w.get name with
  | .ok place, .ok (.file bytes old) =>
    .ok (w.put place (.file bytes (if concerned then executable else old)))
  | .ok _, .ok .directory => .ok w
  | .error e, _ | _, .error e => .error ("cannot access " ++ shown name ++ ": " ++ e.text)

def targetOf (w : World) (name target : String) : Except Errno (List String) :=
  match w.find target, w.isDirectory target with
  | .ok place, true => .ok (place ++ [lastName name])
  | _, _ => w.placeFor target

/-- A file, or with `whole` a directory with all in it, that stands at a target after this as well,
or with `moved` only there. -/
def copy (whole moved : Bool) (target : String) (w : World) (name : String) :
    Except String World :=
  match w.find name, w.get name, targetOf w name target with
  | .ok _, .ok .directory, .error e | .ok _, .ok _, .error e =>
    .error ("cannot create regular file " ++ shown target ++ ": " ++ e.text)
  | .ok place, .ok entry, .ok there =>
    if entry = .directory && !(whole || moved) then
      .error ("-r not specified; omitting directory " ++ shown name)
    else if place = there then
      .error (shown name ++ " and " ++ shown target ++ " are the same file")
    else .ok (if moved then (w.copy place there).remove place else w.copy place there)
  | .error e, _, _ | _, .error e, _ => .error ("cannot stat " ++ shown name ++ ": " ++ e.text)

def copyAll (moved : Bool) (who : String) (w : World) (args : List String) : Effect :=
  match (operands args).reverse with
  | [] => .misuse w 1 who "missing file operand"
  | [only] => .misuse w 1 who ("missing destination file operand after " ++ shown only)
  | target :: names =>
    if 1 < names.length && !w.isDirectory target then
      .complaint w 1 (who ++ ": target " ++ shown target ++ ": No such file or directory")
    else each who w names.reverse
      (copy (hasOption args 'r' || hasOption args 'R' || hasOption args 'a') moved target)

def listed (args : List String) (w : World) (place : List String) : List String :=
  let names := w.namesIn place
  let names := if hasOption args 'a' then "." :: ".." :: names
    else if hasOption args 'A' then names
    else names.filter fun n => !n.startsWith "."
  let names := if hasOption args 'p' || hasOption args 'F' then
      names.map fun n => if w.at? (place ++ [n]) = some .directory then n ++ "/" else n
    else names
  if hasOption args 'r' then names.reverse else names

def list (who : String) (w : World) (args : List String) : Effect :=
  let names := if (operands args).isEmpty then ["."] else operands args
  let names := names.mergeSort fun a b => a ≤ b
  let bad := names.filterMap fun n => match w.get n with
    | .error e => some (who ++ ": cannot access " ++ shown n ++ ": " ++ e.text)
    | .ok _ => none
  let isDirectory := fun (n : String) => w.isDirectory n && !hasOption args 'd'
  let files := names.filter fun n => (w.get n).toOption.isSome && !isDirectory n
  let directories := names.filterMap fun n => match w.find n with
    | .ok place => if isDirectory n then some (n, place) else none
    | .error _ => none
  let lines := fun (names : List String) => String.join (names.map (· ++ "\n"))
  let sections := directories.map fun (n, place) =>
    (if 1 < names.length then n ++ ":\n" else "") ++ lines (listed args w place)
  let sections := if files.isEmpty then sections else lines files :: sections
  let refused := Effect.complaining w (if bad.isEmpty then 0 else 2) bad
  { refused with written := refused.written ++ [(1, octets ("\n".intercalate sections))] }

end Stepwise.Machine.Files
