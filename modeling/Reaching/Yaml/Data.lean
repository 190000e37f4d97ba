import Reaching.Yaml.Merge
import Reaching.Yaml.Scalar
import Reaching.Yaml.SetOrder
/-!
The data that a YAML text holds. A text without a document holds the null value.

Every node gives one item. That of a collection is there before its parts are: collections are
filled in the order in which they were met, so of two faults in different collections the one in the
collection that was met first counts. A key must not be a collection. Of equal keys the first is
kept with the value of the last. The entries of an ordered map, or of pairs, are mappings of one
entry in a sequence.
-/
set_option autoImplicit false

namespace Reaching.Yaml

open Text (Codes)

structure Builder where
  nodes : Array Node
  items : Array (Option Item)
  collections : Array Collection
  waiting : List Nat

abbrev BuilderM := StateT Builder (Except Fault)

namespace Builder

def nodeAt (number : Nat) : BuilderM Node := do
  return (← get).nodes[number]?.getD .absent

/-- Gives the text of a node. That of a mapping is the text under its first value mark. The fuel
bounds how deep such mappings may be. -/
def textAt (nodes : Array Node) : Nat → Nat → Except Fault Codes
  | 0, _ => .error .malformed
  | fuel + 1, number =>
    match nodes[number]? with
    | some (.scalar _ text) => .ok text
    | some (.mapping _ entries) =>
      match entries.find? fun entry => nodes[entry.1]?.any (·.tag = .value) with
      | some entry => textAt nodes fuel entry.2
      | none => .error .malformed
    | _ => .error .malformed

/-- Reads the text of a node as its tag asks for. A time is read only from a node that is a text. -/
def scalarItem (number : Nat) (node : Node) (text : Codes) : Except Fault Item :=
  match node.tag with
  | .null => .ok .null
  | .bool => (Scalar.truth text).map .bool
  | .int => (Scalar.integer text).map .int
  | .float => do
    return .float (← Scalar.fraction text) (if Scalar.isUndefined text then none else some number)
  | .binary => (Scalar.bytes text).map .bytes
  | .timestamp =>
    match node with
    | .scalar .. => (Scalar.timestamp text).map .time
    | _ => .error .notText
  | .text => .ok (.text text)
  | _ => .error .malformed

/-- Gives the empty collection that a tag asks for, if it asks for one. -/
def emptyCollection? : Tag → Option Collection
  | .sequence => some (.list [])
  | .mapping => some (.table [])
  | .set => some (.set [])
  | .orderedMap | .pairs => some (.pairs [])
  | _ => none

def isUnknown (tag : Tag) : Bool :=
  tag = .merge || tag = .value || tag = .foreign

/-- Makes the item of a node; a collection is left to be filled. -/
def make (number : Nat) : BuilderM Item := do
  let node ← nodeAt number
  match emptyCollection? node.tag with
  | some empty =>
    modify fun builder => { builder with
      collections := builder.collections.setIfInBounds number empty
      waiting := builder.waiting ++ [number] }
    return .collection number
  | none =>
    if isUnknown node.tag then throw .malformed
    let nodes := (← get).nodes
    let text ← textAt nodes (nodes.size + 1) number
    scalarItem number node text

/-- Gives the item of a node, which is made once. -/
def item (number : Nat) : BuilderM Item := do
  match (← get).items[number]?.join with
  | some item => return item
  | none =>
    let item ← make number
    modify fun builder => { builder with items := builder.items.setIfInBounds number (some item) }
    return item

def merged (number : Nat) : BuilderM (List (Nat × Nat)) := do
  let (entries, nodes) ← (mergedEntries number).run (← get).nodes
  modify fun builder => { builder with nodes }
  return entries

def entriesOf : Node → Except Fault (List (Nat × Nat))
  | .mapping _ entries => .ok entries
  | _ => .error .malformed

def itemsOf : Node → Except Fault (List Nat)
  | .sequence _ items => .ok items
  | _ => .error .malformed

/-- Stores the entry of two nodes in a table. -/
def storeEntry (stored : List (Item × Item)) (entry : Nat × Nat) :
    BuilderM (List (Item × Item)) := do
  let key ← item entry.1
  if key.isCollection then throw .malformed
  let value ← item entry.2
  return store key value stored

def table (number : Nat) : BuilderM (List (Item × Item)) := do
  (← merged number).foldlM storeEntry []

def pair (number : Nat) : BuilderM (Item × Item) := do
  match ← entriesOf (← nodeAt number) with
  | [(key, value)] => return (← item key, ← item value)
  | _ => throw .malformed

/-- Gives the contents of the collection that a node stands for. -/
def contents (number : Nat) : BuilderM Collection := do
  let node ← nodeAt number
  match node.tag with
  | .mapping => return .table (← table number)
  | .set => return .set (SetOrder.ordered ((← table number).map Prod.fst))
  | .orderedMap | .pairs => return .pairs (← (← itemsOf node).mapM pair)
  | _ => return .list (← (← itemsOf node).mapM item)

/-- Fills the collections that wait. Each node waits once at most, which bounds the fuel. -/
def fill : Nat → BuilderM Unit
  | 0 => return ()
  | fuel + 1 => do
    match (← get).waiting with
    | [] => return ()
    | number :: waiting =>
      modify fun builder => { builder with waiting }
      let filled ← contents number
      modify fun builder =>
        { builder with collections := builder.collections.setIfInBounds number filled }
      fill fuel

def document (root : Nat) : BuilderM Item := do
  let found ← item root
  fill (← get).nodes.size
  return found

end Builder

/-- Gives the data of a document. -/
def Value.ofDocument? (document : Document) : Except Fault Value := do
  let count := document.nodes.size
  let builder : Builder :=
    ⟨document.nodes, Array.replicate count none, Array.replicate count (.list []), []⟩
  let (item, builder) ← (Builder.document document.root).run builder
  return ⟨builder.collections, item⟩

/-- Reads the data that a text holds. -/
def Value.read? (input : Input) : Except Fault Value := do
  match ← Document.ofTokens? (.ofInput input) with
  | none => return ⟨#[], .null⟩
  | some document => Value.ofDocument? document

end Reaching.Yaml
