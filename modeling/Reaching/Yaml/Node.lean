import Reaching.Yaml.Lexer
import Reaching.Yaml.Tag
/-!
The nodes of a YAML document: scalars, sequences and mappings, each with its tag. An anchor names a
node for the aliases after it, also for those inside of that node, so nodes form a graph: a
`Document` numbers them, and a collection holds the numbers of its parts.

`Document.ofTokens?` reads the one document that tokens may hold; there may be none. Tokens are
looked at only when they are needed, so what is wrong with a document counts before a fault of the
text that comes later. The fuel of the readers bounds how deep they may call one another, and
`ofTokens?` gives more than the tokens can use.
-/
set_option autoImplicit false

namespace Reaching.Yaml

open Text (Codes)

inductive Node where
  | scalar (tag : Tag) (text : Codes)
  | sequence (tag : Tag) (items : List Nat)
  | mapping (tag : Tag) (entries : List (Nat × Nat))
  deriving DecidableEq, Repr

namespace Node

def absent : Node := .scalar .null []

def tag : Node → Tag
  | scalar tag _ => tag
  | sequence tag _ => tag
  | mapping tag _ => tag

def withTag (tag : Tag) : Node → Node
  | scalar _ text => scalar tag text
  | sequence _ items => sequence tag items
  | mapping _ entries => mapping tag entries

end Node

structure Document where
  nodes : Array Node
  root : Nat

namespace Document

structure Reader where
  tokens : Tokens
  nodes : Array Node
  anchors : List (String × Nat)
  handles : List (String × String)

abbrev ReaderM := StateT Reader (Except Fault)

namespace Reader

/-- Looks at the next token, which meets the fault that ends the tokens. -/
def next : ReaderM Token := do
  match (← get).tokens with
  | ⟨token :: _, _⟩ => return token
  | ⟨[], some fault⟩ => throw fault
  | ⟨[], none⟩ => return .streamEnd

def drop : ReaderM Unit :=
  modify fun reader =>
    { reader with tokens := ⟨reader.tokens.list.drop 1, reader.tokens.fault⟩ }

/-- Adds a node and gives its number. -/
def add (node : Node) : ReaderM Nat := do
  let number := (← get).nodes.size
  modify fun reader => { reader with nodes := reader.nodes.push node }
  return number

/-- Puts a node in the place of the one that has been added for it. -/
def settle (number : Nat) (node : Node) : ReaderM Unit :=
  modify fun reader => { reader with nodes := reader.nodes.setIfInBounds number node }

/-- Takes a token if it is the next one. -/
def accept (token : Token) : ReaderM Bool := do
  if (← next) = token then
    drop
    return true
  else return false

def require (token : Token) : ReaderM Unit := do
  if !(← accept token) then throw .malformed

def nextIn (tokens : List Token) : ReaderM Bool := do
  return tokens.contains (← next)

def anchor? : ReaderM (Option String) := do
  match ← next with
  | .anchor name =>
    drop
    return some name
  | _ => return none

def tag? : ReaderM (Option (Option String × String)) := do
  match ← next with
  | .tag handle suffix =>
    drop
    return some (handle, suffix)
  | _ => return none

/-- Reads the anchor and the tag before a node, in either order. -/
def properties : ReaderM (Option String × Option (Option String × String)) := do
  match ← anchor? with
  | some anchor => return (some anchor, ← tag?)
  | none =>
    match ← tag? with
    | some tag => return (← anchor?, some tag)
    | none => return (none, none)

def fullTag (handle : Option String) (suffix : String) : ReaderM String := do
  match handle with
  | none => return suffix
  | some handle =>
    match (← get).handles.lookup handle with
    | some replacement => return replacement ++ suffix
    | none => throw .malformed

def nameNode (name : String) (number : Nat) : ReaderM Unit := do
  if ((← get).anchors.lookup name).isSome then throw .malformed
  modify fun reader => { reader with anchors := (name, number) :: reader.anchors }

def nodeNamed (name : String) : ReaderM Nat := do
  match (← get).anchors.lookup name with
  | some number => return number
  | none => throw .malformed

/-- Gives the tag of a collection, which is its own unless another was written. -/
def collectionTag (written : Option String) (own : Tag) : Tag :=
  match written with
  | none => own
  | some "!" => own
  | some name => .ofName name

def scalarNode (written : Option String) (text : Codes) (bare : Bool) : Node :=
  match written with
  | some "!" => .scalar (.ofBare text) text
  | some name => .scalar (.ofName name) text
  | none => .scalar (if bare then .ofBare text else .text) text

/-- Adds the node of an entry that is not there. -/
def addAbsent : ReaderM Nat := add .absent

mutual

/-- Reads a node. Block collections are read only where `block` is set, and a sequence that is not
indented only where `indentless` is. -/
def node (block indentless : Bool) : Nat → ReaderM Nat
  | 0 => throw .malformed
  | fuel + 1 => do
    match ← next with
    | .reference name =>
      drop
      nodeNamed name
    | _ =>
      let (anchor, tag) ← properties
      let written ← tag.mapM fun (handle, suffix) => fullTag handle suffix
      let ahead ← next
      let hasContent := ahead matches .scalar .. || ahead = .flowSequenceStart ||
        ahead = .flowMappingStart || indentless && ahead = .blockEntry ||
        block && (ahead = .blockSequenceStart || ahead = .blockMappingStart)
      if !hasContent && anchor.isNone && written.isNone then throw .malformed
      let number ← addAbsent
      anchor.forM fun name => nameNode name number
      let found ← match ahead with
        | .scalar text bare =>
          drop
          pure (scalarNode written text bare)
        | .flowSequenceStart =>
          drop
          let items ← flowSequence true fuel
          pure (.sequence (collectionTag written .sequence) items)
        | .flowMappingStart =>
          drop
          let entries ← flowMapping true fuel
          pure (.mapping (collectionTag written .mapping) entries)
        | .blockEntry =>
          if indentless then
            let items ← indentlessSequence fuel
            pure (.sequence (collectionTag written .sequence) items)
          else pure (scalarNode written [] true)
        | .blockSequenceStart =>
          if block then
            drop
            let items ← blockSequence fuel
            pure (.sequence (collectionTag written .sequence) items)
          else pure (scalarNode written [] true)
        | .blockMappingStart =>
          if block then
            drop
            let entries ← blockMapping fuel
            pure (.mapping (collectionTag written .mapping) entries)
          else pure (scalarNode written [] true)
        | _ => pure (scalarNode written [] true)
      settle number found
      return number

/-- Reads a node unless one of some tokens shows that there is none. -/
def nodeUnless (ends : List Token) (block indentless : Bool) : Nat → ReaderM Nat
  | 0 => throw .malformed
  | fuel + 1 => do
    if ← nextIn ends then addAbsent else node block indentless fuel

def blockSequence : Nat → ReaderM (List Nat)
  | 0 => throw .malformed
  | fuel + 1 => do
    if ← accept .blockEntry then
      let item ← nodeUnless [.blockEntry, .blockEnd] true false fuel
      return item :: (← blockSequence fuel)
    else
      require .blockEnd
      return []

def indentlessSequence : Nat → ReaderM (List Nat)
  | 0 => throw .malformed
  | fuel + 1 => do
    if ← accept .blockEntry then
      let item ← nodeUnless [.blockEntry, .key, .value, .blockEnd] true false fuel
      return item :: (← indentlessSequence fuel)
    else return []

def blockMapping : Nat → ReaderM (List (Nat × Nat))
  | 0 => throw .malformed
  | fuel + 1 => do
    let ends := [.key, .value, .blockEnd]
    if ← accept .key then
      let key ← nodeUnless ends true true fuel
      let value ← if ← accept .value then nodeUnless ends true true fuel else addAbsent
      return (key, value) :: (← blockMapping fuel)
    else
      require .blockEnd
      return []

def flowSequence (first : Bool) : Nat → ReaderM (List Nat)
  | 0 => throw .malformed
  | fuel + 1 => do
    if ← accept .flowSequenceEnd then return []
    if !first then require .flowEntry
    if ← accept .flowSequenceEnd then return []
    if ← accept .key then
      let key ← nodeUnless [.value, .flowEntry, .flowSequenceEnd] false false fuel
      let value ←
        if ← accept .value then nodeUnless [.flowEntry, .flowSequenceEnd] false false fuel
        else addAbsent
      let pair ← add (.mapping .mapping [(key, value)])
      return pair :: (← flowSequence false fuel)
    else
      let item ← node false false fuel
      return item :: (← flowSequence false fuel)

def flowMapping (first : Bool) : Nat → ReaderM (List (Nat × Nat))
  | 0 => throw .malformed
  | fuel + 1 => do
    if ← accept .flowMappingEnd then return []
    if !first then require .flowEntry
    if ← accept .flowMappingEnd then return []
    if ← accept .key then
      let key ← nodeUnless [.value, .flowEntry, .flowMappingEnd] false false fuel
      let value ←
        if ← accept .value then nodeUnless [.flowEntry, .flowMappingEnd] false false fuel
        else addAbsent
      return (key, value) :: (← flowMapping false fuel)
    else
      let key ← node false false fuel
      let value ← addAbsent
      return (key, value) :: (← flowMapping false fuel)

end

def defaultHandles : List (String × String) := [("!", "!"), ("!!", Tag.standard)]

/-- Reads the directives before a document. -/
def directives (versioned : Bool) : Nat → ReaderM Unit
  | 0 => throw .malformed
  | fuel + 1 => do
    match ← next with
    | .directive directive =>
      drop
      match directive with
      | .version major =>
        if versioned || major ≠ 1 then throw .malformed
        directives true fuel
      | .tag handle replacement =>
        if ((← get).handles.lookup handle).isSome then throw .malformed
        modify fun reader => { reader with handles := (handle, replacement) :: reader.handles }
        directives versioned fuel
      | .other => directives versioned fuel
    | _ => modify fun reader => { reader with handles := reader.handles ++ defaultHandles }

/-- Passes marks that end a document. -/
def documentEnds : Nat → ReaderM Unit
  | 0 => return ()
  | fuel + 1 => do
    if ← accept .documentEnd then documentEnds fuel

def isDirective : Token → Bool
  | .directive _ => true
  | _ => false

/-- Reads the document that the tokens hold, if any, and refuses a second one. -/
def document (fuel : Nat) : ReaderM (Option Nat) := do
  let ahead ← next
  if ahead = .streamEnd then return none
  let found ←
    if isDirective ahead || ahead = .documentStart then do
      directives false fuel
      require .documentStart
      let after ← next
      if isDirective after || [.documentStart, .documentEnd, .streamEnd].contains after then
        addAbsent
      else node true false fuel
    else do
      modify fun reader => { reader with handles := defaultHandles }
      node true false fuel
  documentEnds fuel
  require .streamEnd
  return some found

end Reader

def ofTokens? (tokens : Tokens) : Except Fault (Option Document) := do
  let (root, reader) ←
    (Reader.document (3 * tokens.list.length + 3)).run ⟨tokens, #[], [], []⟩
  return root.map fun root => ⟨reader.nodes, root⟩

end Document

end Reaching.Yaml
