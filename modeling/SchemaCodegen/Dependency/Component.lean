import SchemaCodegen.Dependency.Graph

/-!
# Strongly connected components

The components of a graph are found in one depth-first search. Every node that is entered gets an
index and stays open until its component is complete; open nodes lie on a stack, the latest on top.
A node's low number is the least index of an open node that the search has found a way to from it or
from a node entered after it. When a node is left whose low number is its own index, the open nodes
from the top of the stack down to it are one component.

The search is a machine: `Search.step` looks at one edge or leaves one node.
-/

namespace SchemaCodegen.Dependency

/-- What the search knows about a node. -/
inductive Mark where
  /-- The node was not entered yet. -/
  | unseen
  /-- The node is on the stack. -/
  | entered (index low : Nat)
  /-- The node belongs to a complete component. -/
  | closed (component : Nat)
  deriving DecidableEq, Repr

/-- A node that was entered and not left yet, with the edges still to look at. -/
structure Frame where
  /-- The node. -/
  node : Nat
  /-- The ends of the edges still to look at. -/
  pending : List Nat
  deriving DecidableEq, Repr

/-- The state of the search. -/
structure Search where
  /-- What is known about each node. -/
  marks : List Mark
  /-- The open nodes, the latest first. -/
  stack : List Nat := []
  /-- The nodes that were entered and not left, the latest first. -/
  frames : List Frame := []
  /-- The next index. -/
  counter : Nat := 0
  /-- The number of complete components. -/
  components : Nat := 0
  deriving DecidableEq, Repr

namespace Search

/-- The state before the search: nothing was entered. -/
def initial (graph : Graph) : Search :=
  { marks := List.replicate graph.length .unseen }

/-- What is known about a node; a node outside the graph counts as closed. -/
def mark (s : Search) (node : Nat) : Mark :=
  s.marks[node]?.getD (.closed 0)

/-- Enters a node. -/
def enter (graph : Graph) (s : Search) (node : Nat) : Search :=
  { s with
    marks := s.marks.set node (.entered s.counter s.counter)
    stack := node :: s.stack
    frames := ⟨node, graph.next node⟩ :: s.frames
    counter := s.counter + 1 }

/-- Lowers the low number of an open node to a bound. -/
def lowerTo (bound : Nat) (s : Search) (node : Nat) : Search :=
  match s.mark node with
  | .entered index low => { s with marks := s.marks.set node (.entered index (min low bound)) }
  | _ => s

/-- Cuts a stack below a node: the part down to the node, and the rest. -/
def cutBelow (node : Nat) : List Nat → List Nat × List Nat
  | [] => ([], [])
  | top :: rest =>
    if top = node then ([top], rest)
    else
      let (members, left) := cutBelow node rest
      (top :: members, left)

/-- Marks nodes as members of a component. -/
def closeAll (component : Nat) (marks : List Mark) (nodes : List Nat) : List Mark :=
  nodes.foldl (fun acc node => acc.set node (.closed component)) marks

/-- Closes the component of a node: the open nodes down to it. -/
def close (s : Search) (node : Nat) : Search :=
  let cut := cutBelow node s.stack
  { s with
    marks := closeAll s.components s.marks cut.1
    stack := cut.2
    components := s.components + 1 }

/-- Hands the low number of a node that is left to the node below it. -/
def handDown (low : Nat) (s : Search) : Search :=
  match s.frames with
  | [] => s
  | frame :: _ => s.lowerTo low frame.node

/-- Leaves the topmost node, whose frame is already taken off. -/
def leave (s : Search) (node : Nat) : Search :=
  match s.mark node with
  | .entered index low =>
    let s := s.handDown low
    if low = index then s.close node else s
  | _ => s

/-- Looks at the edge from `node` to `child`. -/
def look (graph : Graph) (s : Search) (node child : Nat) : Search :=
  match s.mark child with
  | .unseen => s.enter graph child
  | .entered index _ => s.lowerTo index node
  | .closed _ => s

/-- One step: looks at the next edge of the topmost node, or leaves it. -/
def step (graph : Graph) (s : Search) : Search :=
  match s.frames with
  | [] => s
  | ⟨node, []⟩ :: frames => { s with frames := frames }.leave node
  | ⟨node, child :: pending⟩ :: frames =>
    { s with frames := ⟨node, pending⟩ :: frames }.look graph node child

/-- Several steps. -/
def steps (graph : Graph) : Nat → Search → Search
  | 0, s => s
  | n + 1, s => steps graph n (s.step graph)

end Search

/-- As many steps as a search can take: one for each edge, and one to leave each node. -/
def Graph.work (graph : Graph) : Nat :=
  graph.foldr (fun nodes total => nodes.length + 1 + total) 0

/-- Searches from a node unless it was entered before. -/
def Search.startAt (graph : Graph) (s : Search) (root : Nat) : Search :=
  match s.mark root with
  | .unseen => (s.enter graph root).steps graph graph.work
  | _ => s

/-- The state after the whole graph was searched. -/
def Graph.search (graph : Graph) : Search :=
  (List.range graph.length).foldl (Search.startAt graph) (Search.initial graph)

/-- The number of the component that a mark tells. -/
def Mark.component : Mark → Nat
  | .closed component => component
  | _ => 0

/-- The number of the component of each node. -/
def Graph.componentNumbers (graph : Graph) : List Nat :=
  graph.search.marks.map Mark.component

/-- The nodes with the given component number, in increasing order. -/
def nodesNumbered (numbers : List Nat) (component : Nat) : List Nat :=
  (List.range numbers.length).filter fun node => numbers[node]? == some component

/-- The leader of each node: the first node of its component. -/
def leadersOf (numbers : List Nat) : List Nat :=
  numbers.map fun component => numbers.idxOf component

end SchemaCodegen.Dependency
