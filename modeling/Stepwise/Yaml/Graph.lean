import Stepwise.Yaml.Scalar

/-!
The nodes of a document as a graph: each by its number, with its tag and the numbers of the nodes
inside it. An alias is the number that it stands for. Merging maps changes the graph for all that
comes after it: a mapping loses its merge keys and gets the entries that they bring.
-/
namespace Stepwise.Yaml

inductive Content where
  | scalar (text : String)
  | sequence (items : List Nat)
  | mapping (entries : List (Nat × Nat))
  deriving DecidableEq, Repr

abbrev Graph := Array (Tag × Content)

namespace Node

def id : Node → Nat
  | .scalar id _ _ | .sequence id _ _ | .mapping id _ _ | .alias id => id

mutual

def cells : Node → List (Nat × Tag × Content)
  | .scalar id tag text => [(id, tag, .scalar text)]
  | .sequence id tag items => (id, tag, .sequence (items.map Node.id)) :: cellsOf items
  | .mapping id tag entries =>
    (id, tag, .mapping (entries.map fun e => (e.1.id, e.2.id))) :: cellsOfEntries entries
  | .alias _ => []

def cellsOf : List Node → List (Nat × Tag × Content)
  | [] => []
  | n :: ns => cells n ++ cellsOf ns

def cellsOfEntries : List (Node × Node) → List (Nat × Tag × Content)
  | [] => []
  | (k, v) :: rest => cells k ++ cells v ++ cellsOfEntries rest

end

def graph (root : Node) : Graph :=
  let cells := root.cells
  cells.foldl (fun g c => g.setIfInBounds c.1 c.2)
    (Array.replicate cells.length (.other, .scalar ""))

end Node

namespace Graph

def tag (g : Graph) (id : Nat) : Tag := (g.getD id (.other, .scalar "")).1

def content (g : Graph) (id : Nat) : Content := (g.getD id (.other, .scalar "")).2

def setTag (g : Graph) (id : Nat) (tag : Tag) : Graph :=
  g.setIfInBounds id (tag, g.content id)

def entries (g : Graph) (id : Nat) : List (Nat × Nat) :=
  match g.content id with
  | .mapping entries => entries
  | _ => []

def setEntries (g : Graph) (id : Nat) (entries : List (Nat × Nat)) : Graph :=
  g.setIfInBounds id (g.tag id, .mapping entries)

def isMapping (g : Graph) (id : Nat) : Bool :=
  match g.content id with
  | .mapping _ => true
  | _ => false

def mergeBound (g : Graph) : Nat :=
  g.foldl (fun n cell => n + match cell.2 with
    | .mapping entries => entries.length
    | _ => 0) 1

def sources (g : Graph) (id : Nat) : List Nat :=
  match g.content id with
  | .sequence items => items
  | _ => [id]

def addSource (flattened : Nat → Graph → Option Graph) (acc : List (List (Nat × Nat)) × Graph)
    (inner : Nat) : Option (List (List (Nat × Nat)) × Graph) :=
  if acc.2.isMapping inner then
    (fun g => (g.entries inner :: acc.1, g)) <$> flattened inner acc.2
  else none

/-- The graph after a mapping has got the entries that its merge keys bring, before its own ones.
Each round takes one merge key out of the graph. A key that asks for a default value is a text from
then on. -/
def flattenWith (id : Nat) (merged : List (Nat × Nat)) : Nat → Graph → Option Graph
  | 0, _ => none
  | fuel + 1, g =>
    let own := g.entries id
    let isMerge := fun (e : Nat × Nat) => g.tag e.1 = .merge
    match own.find? isMerge with
    | none =>
      let g := own.foldl (fun g e => if g.tag e.1 = .value then g.setTag e.1 .str else g) g
      some (if merged.isEmpty then g else g.setEntries id (merged ++ own))
    | some (_, source) => do
      let g := g.setEntries id (own.eraseP isMerge)
      let (parts, g) ←
        (g.sources source).foldlM (addSource fun inner g => flattenWith inner [] fuel g) ([], g)
      flattenWith id (merged ++ parts.flatten) fuel g

def flatten (g : Graph) (id : Nat) : Option Graph := flattenWith id [] g.mergeBound g

def textWithin (g : Graph) : Nat → Nat → Option (String × Bool)
  | 0, _ => none
  | fuel + 1, id =>
    match g.content id with
    | .scalar text => some (text, true)
    | .mapping entries =>
      match entries.find? fun e => g.tag e.1 = .value with
      | some (_, v) => (fun found => (found.1, false)) <$> textWithin g fuel v
      | none => none
    | .sequence _ => none

/-- The text of a node that must be a scalar, and whether it is one: a mapping stands for its
default value. -/
def textOf (g : Graph) (id : Nat) : Option (String × Bool) := g.textWithin (g.size + 1) id

def noText : Fault := .type "expected string or bytes-like object, got 'list'"

def scalarValue (g : Graph) (id : Nat) : Outcome Value :=
  let tag := g.tag id
  if [Tag.merge, .value, .other].contains tag then .malformed
  else match g.textOf id with
    | none => .malformed
    | some (text, own) =>
      if tag = .timestamp && !own then .fault noText else Scalar.value tag text

end Graph

end Stepwise.Yaml
