import SchemaCodegen.Yaml.Graph

/-!
# Merged mappings

A mapping may take over the entries of other mappings: the value under its merging key is a mapping,
or a list of mappings of which an earlier one counts more. The entries taken over stand in front of
the mapping's own, so that these count most. The mappings that entries are taken from are merged
first. A merging key is used up by merging, so a mapping may even take over its own entries.
-/

namespace SchemaCodegen.Yaml

/-- A step that changes nodes. -/
abbrev Merging (α : Type) := StateT Nodes (Except Flaw) α

namespace Merging

/-- The entries of the mapping with a number; anything else is malformed. -/
def entries (number : Nat) : Merging (List (Nat × Nat)) := do
  match (← get).entries? number with
  | some entries => return entries
  | none => throw .malformed

/-- Gives the mapping with a number other entries. -/
def setEntries (number : Nat) (entries : List (Nat × Nat)) : Merging Unit :=
  modify fun nodes => nodes.put number ((nodes.node number).withEntries entries)

/-- Takes the first merging key of a mapping away, and tells its value. -/
def takeMerge? (number : Nat) : Merging (Option Nat) := do
  let nodes ← get
  let (before, rest) := ((nodes.entries? number).getD []).span fun entry =>
    nodes.kind entry.1 != .merge
  match rest with
  | [] => return none
  | entry :: after =>
    setEntries number (before ++ after)
    return some entry.2

/-- The entries that a mapping takes over from a node; of several mappings those of the last come
first. `merge` is carried out on every mapping before its entries are taken. -/
def takenFrom (merge : Nat → Merging Unit) (source : Nat) : Merging (List (Nat × Nat)) := do
  match (← get).node source with
  | .mapping _ _ =>
    merge source
    entries source
  | .list _ items =>
    let parts ← items.mapM fun item => do
      merge item
      entries item
    return parts.reverse.flatten
  | .scalar _ _ => throw .malformed

/-- All that a mapping takes over under its merging keys, after `taken`; the number bounds how many
there are. -/
def takenOver (merge : Nat → Merging Unit) (number : Nat) :
    Nat → List (Nat × Nat) → Merging (List (Nat × Nat))
  | 0, taken => return taken
  | fuel + 1, taken => do
    match ← takeMerge? number with
    | none => return taken
    | some source => takenOver merge number fuel (taken ++ (← takenFrom merge source))

/-- A key that would stand in for a mapping is a text where it is an entry's key. -/
def settleKey (entry : Nat × Nat) : Merging Unit :=
  modify fun nodes =>
    if nodes.kind entry.1 == .standIn then
      nodes.put entry.1 ((nodes.node entry.1).withKind .text)
    else nodes

/-- Merges into the mapping with a number what it takes over; the other number bounds how many
mergings there are. -/
def mergeAt : Nat → Nat → Merging Unit
  | 0, _ => return
  | fuel + 1, number => do
    let taken ← takenOver (mergeAt fuel) number (fuel + 1) []
    let own ← entries number
    own.forM settleKey
    unless taken.isEmpty do setEntries number (taken ++ own)

/-- The entries of the mapping with a number, after merging. -/
def mergedEntries (fuel number : Nat) : Merging (List (Nat × Nat)) := do
  mergeAt fuel number
  entries number

/-- How many entries all mappings have; every merging uses one up. -/
def countEntries (nodes : Nodes) : Nat :=
  nodes.foldl (fun count node =>
    match node with
    | .mapping _ entries => count + entries.length
    | _ => count) 0

end Merging

end SchemaCodegen.Yaml
