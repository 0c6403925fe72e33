import Stepwise.Yaml.Graph

/-!
The value of a document. Collections are filled in the order in which they are met, all scalars of
one before any of the next, and every node once, whatever the number of its aliases; so the first
trouble is the one that is told. Maps may be merged into others. When all collections are filled
their values follow from each other, from the lowest ones up. A collection that holds itself has no
value that ends, and is followed to some depth.
-/
namespace Stepwise.Yaml

/-- A scalar's value. Two numbers that are none are the same key only if they come from the same
node, which is kept; those that are spelled as such count as coming from the same. -/
structure Known where
  value : Value
  origin : Option Nat

namespace Known

def isNotANumber : Value → Bool
  | .float x => x.isNaN
  | _ => false

def ofNode (g : Graph) (id : Nat) : Outcome Known := do
  let v ← g.scalarValue id
  let origin := match isNotANumber v, g.textOf id with
    | true, some (text, _) => if Scalar.isSpelledNaN text then none else some id
    | _, _ => none
  return ⟨v, origin⟩

def sameKey (a b : Known) : Bool :=
  a.value.sameKey b.value ||
    (isNotANumber a.value && isNotANumber b.value && a.origin = b.origin)

end Known

/-- What a collection is filled with: the numbers of its items or values, and the keys of a map or a
set. -/
inductive Filling where
  | list (items : List Nat)
  | pairs (entries : List (Nat × Nat))
  | map (entries : List (Known × Nat))
  | set (keys : List Known)

namespace Filling

def setEntry (key : Known) (value : Nat) : List (Known × Nat) → List (Known × Nat)
  | [] => [(key, value)]
  | (k, v) :: rest =>
    if k.sameKey key then (k, value) :: rest else (k, v) :: setEntry key value rest

def parts : Filling → List Nat
  | list items => items
  | pairs entries => entries.flatMap fun e => [e.1, e.2]
  | map entries => entries.map Prod.snd
  | set _ => []

def value (of : Nat → Value) : Filling → Value
  | list items => .list (items.map of)
  | pairs entries => .list (entries.map fun e => .tuple [of e.1, of e.2])
  | map entries => .map (entries.map fun e => (e.1.value, of e.2))
  | set keys => .set (keys.map Known.value)

end Filling

structure Progress where
  graph : Graph
  known : Array (Option Known)
  met : Array Bool
  filled : Array (Option Filling)
  waiting : List Nat

abbrev Fill := StateT Progress (Except Trouble)

namespace Fill

def collections : List Tag := [.seq, .map, .omap, .pairs, .set]

def isLater (id : Nat) : Fill Bool := return collections.contains ((← get).graph.tag id)

def scalar (id : Nat) : Fill Known := do
  let s ← get
  match s.known.getD id none with
  | some k => return k
  | none =>
    let k ← Known.ofNode s.graph id
    set { s with known := s.known.setIfInBounds id (some k) }
    return k

def meet (id : Nat) : Fill Unit := do
  if ← isLater id then
    modify fun s =>
      if s.met.getD id true then s
      else { s with met := s.met.setIfInBounds id true, waiting := id :: s.waiting }
  else discard (scalar id)

def key (id : Nat) : Fill Known := do
  if ← isLater id then throw .malformed else scalar id

def entries (id : Nat) : Fill (List (Known × Nat)) := do
  let s ← get
  match if s.graph.isMapping id then s.graph.flatten id else none with
  | none => throw .malformed
  | some g =>
    set { s with graph := g }
    (g.entries id).foldlM (fun acc e => do
      let k ← key e.1
      meet e.2
      return Filling.setEntry k e.2 acc) []

def entry (id : Nat) : Fill (Nat × Nat) := do
  match (← get).graph.content id with
  | .mapping [(k, v)] =>
    meet k
    meet v
    return (k, v)
  | _ => throw .malformed

def filling (id : Nat) : Fill Filling := do
  let g := (← get).graph
  match g.tag id, g.content id with
  | .seq, .sequence items =>
    items.forM meet
    return .list items
  | .omap, .sequence items | .pairs, .sequence items => return .pairs (← items.mapM entry)
  | .map, _ => return .map (← entries id)
  | .set, _ => return .set ((← entries id).map Prod.fst)
  | _, _ => throw .malformed

/-- Fills all that waits, first come first served, until nothing is left. In each round something is
filled that was not. -/
def fillAll : Nat → Fill Unit
  | 0 => throw .malformed
  | fuel + 1 => do
    match (← get).waiting with
    | [] => return
    | waiting =>
      modify fun s => { s with waiting := [] }
      waiting.reverse.forM fun id => do
        let f ← filling id
        modify fun s => { s with filled := s.filled.setIfInBounds id (some f) }
      fillAll fuel

def below (root : Node) : Fill Unit := do
  meet root.id
  fillAll (root.graph.size + 1)

def start (g : Graph) : Progress :=
  ⟨g, .replicate g.size none, .replicate g.size false, .replicate g.size none, []⟩

def document (root : Node) : Outcome Progress :=
  Prod.snd <$> (below root).run (start root.graph)

end Fill

namespace Progress

def cycleDepth : Nat := 8

abbrev Layer := Array (Nat × Value)

def raise (s : Progress) (layer : Layer) : Layer :=
  let part := fun id => layer.getD id (0, .null)
  layer.mapIdx fun id known =>
    match s.filled.getD id none with
    | some f =>
      (f.parts.foldl (fun n id => max n ((part id).1 + 1)) 1, f.value fun id => (part id).2)
    | none => known

def settle (s : Progress) : Nat → Layer → Layer
  | 0, layer => layer
  | fuel + 1, layer =>
    let next := s.raise layer
    if next.map Prod.fst = layer.map Prod.fst then layer else settle s fuel next

def layers (s : Progress) : Layer :=
  let scalars := s.known.map fun k => (0, (k.map Known.value).getD .null)
  s.settle (s.filled.toList.countP Option.isSome + cycleDepth) scalars

def value (s : Progress) (id : Nat) : Value := (s.layers.getD id (0, .null)).2

end Progress

def Excess.fault : Excess → Fault
  | character code =>
    if 2147483648 ≤ code.val then .overflow "Python int too large to convert to C int"
    else .value "chr() arg not in range(0x110000)"
  | version digits => Scalar.tooManyDigits digits

def load (cs : List Char) : Outcome Value :=
  match Node.ofText cs with
  | .error .malformed => .malformed
  | .error (.excess x) => .fault x.fault
  | .ok none => .ok .null
  | .ok (some root) => (fun s : Progress => s.value root.id) <$> Fill.document root

end Stepwise.Yaml
