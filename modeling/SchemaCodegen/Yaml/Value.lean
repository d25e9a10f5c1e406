import SchemaCodegen.Yaml.Merge

/-!
# Values of nodes

What a graph of nodes stands for. Scalars get their values where they are met; lists and mappings
wait, and those that were met first are filled first. So of several flaws the one that lies least
deep is told, and among those the first. A key of a mapping has no parts; of several equal keys the
last value counts.

A node that lies inside itself stands for a document without end. Such a document is cut off below a
depth that no reader of a schema comes to.
-/

namespace SchemaCodegen.Yaml

/-- What a node stands for; values inside it are given by the numbers of their nodes. -/
inductive Content where
  /-- A value without parts. -/
  | simple (document : Document)
  /-- A list. -/
  | list (items : List Nat)
  /-- A mapping. -/
  | mapping (entries : List (Document × Nat))
  /-- A set. -/
  | set (items : List Document)
  /-- A list of pairs. -/
  | pairs (entries : List (Nat × Nat))

/-- What is known while values are made. -/
structure Making where
  /-- The nodes. -/
  nodes : Nodes
  /-- What the nodes that were met stand for; a list or mapping that waits is empty. -/
  contents : Array (Option Content)
  /-- The numbers of the lists and mappings that wait, the last one first. -/
  waiting : List Nat := []
  /-- How many mergings there may be at most. -/
  mergings : Nat

/-- A step of making values. -/
abbrev Make (α : Type) := StateT Making (Except Flaw) α

namespace Make

/-- Keeps what the node with a number stands for. -/
def setContent (number : Nat) (content : Content) : Make Unit :=
  modify fun making =>
    { making with contents := making.contents.setIfInBounds number (some content) }

/-- What the node with a number stands for, if that is known. -/
def content? (number : Nat) : Make (Option Content) := do
  return ((← get).contents[number]?).join

/-- The text of the node with a number, where a scalar is wanted. A mapping may have an entry that
stands in for it; the other number bounds how many mappings stand in for each other. -/
def textOf (nodes : Nodes) : Nat → Nat → Except Flaw String
  | 0, _ => .error (.breakdown (.tooDeep .yamlNode))
  | fuel + 1, number =>
    match nodes.node number with
    | .scalar _ text => .ok text
    | .list _ _ => .error .malformed
    | .mapping _ entries =>
      match entries.find? fun entry => nodes.kind entry.1 == .standIn with
      | some entry => textOf nodes fuel entry.2
      | none => .error .malformed

/-- The value without parts that the node with a number stands for. -/
def simpleValue (nodes : Nodes) (number : Nat) : Except Flaw Document := do
  let kind := nodes.kind number
  let text ← textOf nodes (nodes.size + 1) number
  if kind == .timestamp && (nodes.entries? number).isSome then throw (.breakdown .dateOfMapping)
  scalarValue kind text

/-- Meets the node with a number: a value without parts is made, and anything else waits. -/
def meet (number : Nat) : Make Unit := do
  if (← content? number).isSome then return
  let nodes := (← get).nodes
  if (nodes.kind number).isCollection then
    setContent number (.list [])
    modify fun making => { making with waiting := number :: making.waiting }
  else setContent number (.simple (← simpleValue nodes number))

/-- The key that the node with a number is, after it was met. -/
def keyAt (number : Nat) : Make Document := do
  meet number
  match ← content? number with
  | some (.simple document) => return document
  | _ => throw .malformed

/-- The entries of a mapping, after `read`. -/
def entriesFrom (read : List (Document × Nat)) :
    List (Nat × Nat) → Make (List (Document × Nat))
  | [] => return read
  | (key, value) :: entries => do
    let key ← keyAt key
    meet value
    entriesFrom (Document.setEntry key value read) entries

/-- The entries of the mapping with a number, after merging. -/
def entriesOf (number : Nat) : Make (List (Document × Nat)) := do
  let making ← get
  let (entries, nodes) ←
    (Merging.mergedEntries (making.mergings + 1) number).run making.nodes
  modify fun making => { making with nodes := nodes }
  entriesFrom [] entries

/-- The items of the list with a number. -/
def itemsOf (number : Nat) : Make (List Nat) := do
  match (← get).nodes.node number with
  | .list _ items => return items
  | _ => throw .malformed

/-- The pair that the node with a number is: a mapping of one entry. -/
def pairAt (number : Nat) : Make (Nat × Nat) := do
  match (← get).nodes.entries? number with
  | some [(key, value)] =>
    meet key
    meet value
    return (key, value)
  | _ => throw .malformed

/-- Fills the list or mapping with a number, which was waiting. -/
def fill (number : Nat) : Make Unit := do
  match (← get).nodes.kind number with
  | .list =>
    let items ← itemsOf number
    items.forM meet
    setContent number (.list items)
  | .mapping => setContent number (.mapping (← entriesOf number))
  | .set => setContent number (.set ((← entriesOf number).map (·.1)))
  | _ => setContent number (.pairs (← (← itemsOf number).mapM pairAt))

/-- Fills the lists and mappings that wait, and those that wait then, at most so many times. -/
def fillAll : Nat → Make Unit
  | 0 => return
  | fuel + 1 => do
    let waiting := (← get).waiting
    unless waiting.isEmpty do
      modify fun making => { making with waiting := [] }
      waiting.reverse.forM fill
      fillAll fuel

/-- Makes what the node with a number stands for, with all that is inside it; the other number
bounds how deep that lies. -/
def everything (root depth : Nat) : Make Unit := do
  meet root
  fillAll depth

end Make

/-! ## Documents -/

/-- The document of what a node stands for, from the documents of the nodes. -/
def Content.toDocument (documents : Array Document) : Content → Document
  | simple document => document
  | list items => .list (items.map documentAt)
  | mapping entries => .mapping (entries.map fun entry => (entry.1, documentAt entry.2))
  | set items => .set items
  | pairs entries =>
    .list (entries.map fun entry => .list [documentAt entry.1, documentAt entry.2])
where
  /-- The document of the node with a number. -/
  documentAt (number : Nat) : Document := documents[number]?.getD .null

/-- How often the documents of the nodes are made where nodes lie inside themselves; every time the
documents become right to a greater depth. -/
def maxUnfolding : Nat := 9

namespace Graph

/-- The documents of the nodes, made once more from the documents so far. -/
def unfold (graph : Graph) (contents : Array (Option Content)) (documents : Array Document) :
    Array Document :=
  graph.order.foldl (fun documents number =>
    match contents[number]?.join with
    | some content => documents.setIfInBounds number (content.toDocument documents)
    | none => documents) documents

/-- The document that a graph stands for. -/
def toDocument (graph : Graph) : Except Flaw Document := do
  let size := graph.nodes.size
  let start : Making :=
    { nodes := graph.nodes
      contents := Array.replicate size none
      mergings := Merging.countEntries graph.nodes }
  let (_, made) ← (Make.everything graph.root (size + 1)).run start
  let rounds := if graph.circular then maxUnfolding else 1
  let documents := rounds.repeat (graph.unfold made.contents) (Array.replicate size .null)
  return documents[graph.root]?.getD .null

end Graph

end SchemaCodegen.Yaml
