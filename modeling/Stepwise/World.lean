import Stepwise.Path
import Stepwise.Text.Utf8
import Stepwise.World.Errno

/-!
A tree of files: what a program finds when it looks up a name, reads a file or writes one. Every
entry is known by the names that lead to it from the root. A name is looked up step by step, and
every step but the last must lead into a directory.
-/
namespace Stepwise

inductive Entry where
  | directory
  | file (bytes : List UInt8) (executable : Bool)
  deriving DecidableEq, Repr

/-- The entries by their places, and the place from which relative names start. -/
structure World where
  entries : List (List String × Entry)
  home : List String
  deriving Repr

namespace World

def nameLimit : Nat := 255

def pathLimit : Nat := 4095

def at? (w : World) (place : List String) : Option Entry :=
  if place.isEmpty then some .directory else w.entries.lookup place

def size (name : String) : Nat := name.utf8ByteSize

def follow (w : World) (place : List String) : List String → Except Errno (List String)
  | [] => .ok place
  | name :: names =>
    match w.at? place with
    | some .directory =>
      if name = "." then follow w place names
      else if name = ".." then follow w place.dropLast names
      else if nameLimit < size name then .error .nameTooLong
      else
        let next := place ++ [name]
        match w.at? next with
        | some _ => follow w next names
        | none => .error .notFound
    | some _ => .error .notDirectory
    | none => .error .notFound

def steps (path : String) : List String :=
  let names := Path.names path
  let kept := names.filter (· ≠ "")
  if names.getLast? = some "" && !kept.isEmpty then kept ++ ["."] else kept

def startOf (w : World) (path : String) : List String :=
  if path.toList.head? = some '/' then [] else w.home

def find (w : World) (path : String) : Except Errno (List String) :=
  if path = "" then .error .notFound
  else if pathLimit < size path then .error .nameTooLong
  else w.follow (w.startOf path) (steps path)

def get (w : World) (path : String) : Except Errno Entry := do
  match w.at? (← w.find path) with
  | some e => .ok e
  | none => .error .notFound

/-- Whether a path leads to a file. Names that are too long are told apart from those that lead
nowhere. -/
def isFile (w : World) (path : String) : Except Errno Bool :=
  match w.get path with
  | .ok (.file _ _) => .ok true
  | .ok .directory => .ok false
  | .error .notFound | .error .notDirectory => .ok false
  | .error e => .error e

def isDirectory (w : World) (path : String) : Bool :=
  match w.get path with
  | .ok .directory => true
  | _ => false

def read (w : World) (path : String) : Except Errno (List UInt8) := do
  match ← w.get path with
  | .file bytes _ => .ok bytes
  | .directory => .error .isDirectory

def put (w : World) (place : List String) (e : Entry) : World :=
  if (w.at? place).isSome then
    { w with entries := w.entries.map fun p => if p.1 = place then (place, e) else p }
  else { w with entries := w.entries ++ [(place, e)] }

def placeFor (w : World) (path : String) : Except Errno (List String) := do
  if path = "" then .error .notFound
  else if pathLimit < size path then .error .nameTooLong
  else
    let names := steps path
    match names.getLast? with
    | none => .error .isDirectory
    | some last =>
      let parent ← w.follow (w.startOf path) names.dropLast
      match w.at? parent with
      | some .directory =>
        if last = "." || last = ".." then .error .isDirectory
        else if nameLimit < size last then .error .nameTooLong
        else .ok (parent ++ [last])
      | _ => .error .notDirectory

def write (w : World) (path : String) (bytes : List UInt8) : Except Errno World := do
  let place ← w.placeFor path
  match w.at? place with
  | some .directory => .error .isDirectory
  | some (.file _ executable) => .ok (w.put place (.file bytes executable))
  | none => .ok (w.put place (.file bytes false))

def namesIn (w : World) (place : List String) : List String :=
  let names := w.entries.filterMap fun e =>
    if e.1.dropLast = place then e.1.getLast? else none
  names.mergeSort fun a b => a ≤ b

def remove (w : World) (place : List String) : World :=
  { w with entries := w.entries.filter fun e => !place.isPrefixOf e.1 }

def copy (w : World) (place target : List String) : World :=
  (w.entries.filter fun e => place.isPrefixOf e.1).foldl (fun w e =>
    w.put (target ++ e.1.drop place.length) e.2) w

def mkdirs (w : World) (place : List String) : World :=
  (List.range place.length).foldl (fun w k =>
    let upper := place.take (k + 1)
    if (w.at? upper).isSome then w else w.put upper .directory) w

end World

end Stepwise
