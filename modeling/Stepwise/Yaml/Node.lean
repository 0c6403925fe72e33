import Stepwise.Yaml.Tag
import Stepwise.Yaml.Token

/-!
The nodes of a document. A node that an anchor names may be met again through aliases, so nodes are
numbered in the order in which they begin and an alias is the number of its node. A node may hold an
alias of itself.
-/
namespace Stepwise.Yaml

inductive Node where
  | scalar (id : Nat) (tag : Tag) (text : String)
  | sequence (id : Nat) (tag : Tag) (items : List Node)
  | mapping (id : Nat) (tag : Tag) (entries : List (Node × Node))
  | alias (id : Nat)

namespace Node

instance : Inhabited Node := ⟨.alias 0⟩

structure Reader where
  tokens : List Token
  handles : List (String × String)
  anchors : List (String × Nat)
  next : Nat

abbrev Read := StateT Reader (Except Unread)

namespace Read

/-- The next token, if there is one. What cannot be read is told as soon as it is met. -/
def peek : Read (Option Token) := do
  match (← get).tokens.head? with
  | some (.unreadable x) => throw (.excess x)
  | t => return t

def skip : Read Unit := modify fun s => { s with tokens := s.tokens.tail }

def expect (t : Token) : Read Unit := do
  if (← peek) = some t then skip else throw .malformed

def nextIs (ts : List Token) : Read Bool := do
  match ← peek with
  | some t => return ts.contains t
  | none => return false

def number (anchor : Option String) : Read Nat := do
  let s ← get
  match anchor with
  | none => set { s with next := s.next + 1 }
  | some name =>
    if (s.anchors.lookup name).isSome then throw .malformed
    set { s with next := s.next + 1, anchors := (name, s.next) :: s.anchors }
  return s.next

def absent : Read Node := return .scalar (← number none) .null ""

def tagName (handle : Option String) (rest : String) : Read (Option String) := do
  let name ← match handle with
    | none => pure rest
    | some h =>
      match (← get).handles.lookup h with
      | some start => pure (start ++ rest)
      | none => throw .malformed
  return if name = "!" then none else some name

/-- The anchor and the tag before a node, in any order. The tag is doubly optional: there may be
none, or one that leaves the kind open. -/
def properties : Read (Option String × Option (Option String)) := do
  match ← peek with
  | some (.anchor name) =>
    skip
    match ← peek with
    | some (.tag handle rest) =>
      skip
      return (some name, some (← tagName handle rest))
    | _ => return (some name, none)
  | some (.tag handle rest) =>
    skip
    match ← peek with
    | some (.anchor name) =>
      skip
      return (some name, some (← tagName handle rest))
    | _ => return (none, some (← tagName handle rest))
  | _ => return (none, none)

def collectionTag (kind : Tag) (tag : Option (Option String)) : Tag :=
  match tag with
  | some (some name) => .ofName name
  | _ => kind

/-- The kind of a scalar. It is found from the text where no tag names it, unless quotes say that it
is a text. -/
def scalarTag (tag : Option (Option String)) (plain : Bool) (text : String) : Tag :=
  match tag with
  | some (some name) => .ofName name
  | some none => .implicit text.toList
  | none => if plain then .implicit text.toList else .str

/-- Where a node may stand, which decides the collections it may be. -/
inductive Place where
  | flow
  | block
  /-- The value or the key of a block mapping, where a sequence need not be indented. -/
  | entry
  deriving DecidableEq

mutual

def node (place : Place) : Nat → Read Node
  | 0 => throw .malformed
  | fuel + 1 => do
    match ← peek with
    | some (.alias name) =>
      skip
      match (← get).anchors.lookup name with
      | some id => return .alias id
      | none => throw .malformed
    | _ =>
      let (anchor, tag) ← properties
      match ← peek with
      | some (.scalar text plain) =>
        skip
        return .scalar (← number anchor) (scalarTag tag plain text) text
      | some .flowSequenceStart =>
        skip
        let id ← number anchor
        return .sequence id (collectionTag .seq tag) (← flowItems true fuel)
      | some .flowMappingStart =>
        skip
        let id ← number anchor
        return .mapping id (collectionTag .map tag) (← flowEntries true fuel)
      | some t =>
        if t = .blockEntry && place = .entry then
          let id ← number anchor
          return .sequence id (collectionTag .seq tag) (← looseItems fuel)
        else if t = .blockSequenceStart && place ≠ .flow then
          skip
          let id ← number anchor
          return .sequence id (collectionTag .seq tag) (← blockItems fuel)
        else if t = .blockMappingStart && place ≠ .flow then
          skip
          let id ← number anchor
          return .mapping id (collectionTag .map tag) (← blockEntries fuel)
        else empty anchor tag
      | none => empty anchor tag

def empty (anchor : Option String) (tag : Option (Option String)) : Read Node := do
  if anchor.isNone && tag.isNone then throw .malformed
  return .scalar (← number anchor) (scalarTag tag true "") ""

def nodeUnless (stops : List Token) (place : Place) : Nat → Read Node
  | 0 => throw .malformed
  | fuel + 1 => do
    if ← nextIs stops then absent else node place fuel

def blockItems : Nat → Read (List Node)
  | 0 => throw .malformed
  | fuel + 1 => do
    if ← nextIs [.blockEntry] then
      skip
      let item ← nodeUnless [.blockEntry, .blockEnd] .block fuel
      return item :: (← blockItems fuel)
    else
      expect .blockEnd
      return []

def looseItems : Nat → Read (List Node)
  | 0 => throw .malformed
  | fuel + 1 => do
    if ← nextIs [.blockEntry] then
      skip
      let item ← nodeUnless [.blockEntry, .key, .value, .blockEnd] .block fuel
      return item :: (← looseItems fuel)
    else return []

def blockEntries : Nat → Read (List (Node × Node))
  | 0 => throw .malformed
  | fuel + 1 => do
    if ← nextIs [.key] then
      skip
      let k ← nodeUnless [.key, .value, .blockEnd] .entry fuel
      let v ←
        if ← nextIs [.value] then do
          skip
          nodeUnless [.key, .value, .blockEnd] .entry fuel
        else absent
      return (k, v) :: (← blockEntries fuel)
    else
      expect .blockEnd
      return []

/-- The value after a key of a flow mapping, if there is one before the stops. -/
def flowValue (stops : List Token) : Nat → Read Node
  | 0 => throw .malformed
  | fuel + 1 => do
    if ← nextIs [.value] then
      skip
      nodeUnless stops .flow fuel
    else absent

def flowItems (first : Bool) : Nat → Read (List Node)
  | 0 => throw .malformed
  | fuel + 1 => do
    if ← nextIs [.flowSequenceEnd] then
      skip
      return []
    if !first then expect .flowEntry
    if ← nextIs [.key] then
      skip
      let id ← number none
      let k ← nodeUnless [.value, .flowEntry, .flowSequenceEnd] .flow fuel
      let v ← flowValue [.flowEntry, .flowSequenceEnd] fuel
      return .mapping id .map [(k, v)] :: (← flowItems false fuel)
    if ← nextIs [.flowSequenceEnd] then
      skip
      return []
    let item ← node .flow fuel
    return item :: (← flowItems false fuel)

def flowEntries (first : Bool) : Nat → Read (List (Node × Node))
  | 0 => throw .malformed
  | fuel + 1 => do
    if ← nextIs [.flowMappingEnd] then
      skip
      return []
    if !first then expect .flowEntry
    if ← nextIs [.key] then
      skip
      let k ← nodeUnless [.value, .flowEntry, .flowMappingEnd] .flow fuel
      let v ← flowValue [.flowEntry, .flowMappingEnd] fuel
      return (k, v) :: (← flowEntries false fuel)
    if ← nextIs [.flowMappingEnd] then
      skip
      return []
    let k ← node .flow fuel
    let v ← absent
    return (k, v) :: (← flowEntries false fuel)

end

def standardHandles : List (String × String) := [("!", "!"), ("!!", Tag.standard)]

def directives (version : Bool) (handles : List (String × String)) : Nat → Read Unit
  | 0 => throw .malformed
  | fuel + 1 => do
    match ← peek with
    | some (.directive (.version major _)) =>
      skip
      if version || major ≠ 1 then throw .malformed
      directives true handles fuel
    | some (.directive (.tag handle start)) =>
      skip
      if (handles.lookup handle).isSome then throw .malformed
      directives version ((handle, start) :: handles) fuel
    | some (.directive .other) =>
      skip
      directives version handles fuel
    | _ => modify fun s => { s with handles := handles ++ standardHandles }

def nextIsDirective : Read Bool := do
  match ← peek with
  | some (.directive _) => return true
  | _ => return false

/-- The document of a text, if it has one. Only marks of an end may follow it. -/
def document (fuel : Nat) : Read (Option Node) := do
  if (← peek).isNone then return none
  let explicit ← do
    if (← nextIsDirective) || (← nextIs [.documentStart]) then
      directives false [] fuel
      expect .documentStart
      pure true
    else
      directives false [] fuel
      pure false
  let root ←
    if explicit && ((← peek).isNone || (← nextIsDirective) ||
        (← nextIs [.documentStart, .documentEnd])) then absent
    else node .block fuel
  modify fun s => { s with tokens := s.tokens.dropWhile (· = Token.documentEnd) }
  if (← peek).isSome then throw .malformed
  return some root

end Read

def ofTokens (tokens : List Token) : Except Unread (Option Node) :=
  (Read.document (4 * tokens.length + 8)).run' ⟨tokens, [], [], 0⟩

def ofText (cs : List Char) : Except Unread (Option Node) :=
  match Token.scan cs with
  | some tokens => ofTokens tokens
  | none => .error .malformed

end Node

end Stepwise.Yaml
