import Reaching.Yaml.Node
/-!
Merging mappings. A merge key in a mapping is replaced by the entries of the mapping under it, or of
each of the mappings in the sequence under it, the last of them first; they go before the entries
that the mapping has of its own. What is merged has its own merges done first.

A key that is a value mark stands for its text once the mapping has been through this.

Every merge takes one key out of the document, so there are no more steps than there are merge keys;
the fuel is twice their number.
-/
set_option autoImplicit false

namespace Reaching.Yaml

abbrev MergeM := StateT (Array Node) (Except Fault)

namespace Merge

abbrev Entries := List (Nat × Nat)

def nodeAt (number : Nat) : MergeM Node := do
  return (← get)[number]?.getD .absent

def setNode (number : Nat) (node : Node) : MergeM Unit :=
  modify (·.setIfInBounds number node)

def entriesAt (number : Nat) : MergeM Entries := do
  match ← nodeAt number with
  | .mapping _ entries => return entries
  | _ => throw .malformed

def setEntries (number : Nat) (entries : Entries) : MergeM Unit := do
  setNode number (.mapping (← nodeAt number).tag entries)

def isMerge (nodes : Array Node) (entry : Nat × Nat) : Bool :=
  nodes[entry.1]?.any (·.tag = .merge)

/-- Takes the first merge out of a mapping and gives what is to be merged. -/
def takeMerge (number : Nat) : MergeM (Option Nat) := do
  let entries ← entriesAt number
  let nodes ← get
  match entries.span fun entry => !isMerge nodes entry with
  | (_, []) => return none
  | (before, entry :: after) =>
    setEntries number (before ++ after)
    return some entry.2

/-- Makes a key that is a value mark a text. -/
def plainKey (entry : Nat × Nat) : MergeM Unit := do
  let key ← nodeAt entry.1
  if key.tag = .value then setNode entry.1 (key.withTag .text)

mutual

/-- Carries out the merges in a mapping and gives its entries. -/
def flatten : Nat → Nat → MergeM Entries
  | 0, _ => throw .malformed
  | fuel + 1, number => do
    let merged ← gather fuel number []
    let own ← entriesAt number
    own.forM plainKey
    setEntries number (merged ++ own)
    return merged ++ own

/-- Gives what the merges in a mapping bring in, after what is given. -/
def gather : Nat → Nat → Entries → MergeM Entries
  | 0, _, _ => throw .malformed
  | fuel + 1, number, merged => do
    match ← takeMerge number with
    | none => return merged
    | some found =>
      let more ← match ← nodeAt found with
        | .mapping .. => flatten fuel found
        | .sequence _ items => do
          let parts ← items.mapM (flatten fuel)
          pure parts.reverse.flatten
        | .scalar .. => throw .malformed
      gather fuel number (merged ++ more)

end

def countMerges (nodes : Array Node) : Nat :=
  nodes.foldl (fun count node =>
    match node with
    | .mapping _ entries => count + (entries.filter (isMerge nodes)).length
    | _ => count) 0

end Merge

/-- Carries out the merges in the mapping of a number. -/
def mergedEntries (number : Nat) : MergeM Merge.Entries := do
  Merge.flatten (2 * Merge.countMerges (← get) + 2) number

end Reaching.Yaml
