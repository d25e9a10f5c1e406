import SchemaCodegen.Dependency.Component

/-!
# Dependency order

Tables are ordered so that a referenced table comes before those that refer to it. The tables of one
component cannot all follow that rule, so they stand together, in the order of the list. A component
is told by its leader, the first of its members in the list; the graph of leaders is walked depth
first from each leader in turn, and a leader's members are written down when it is left. Ties are
broken by position in the list alone.
-/

namespace SchemaCodegen.Dependency

/-- The members of the component that a node leads, in increasing order; none if it leads none. -/
def membersOf (leaders : List Nat) (leader : Nat) : List Nat :=
  nodesNumbered leaders leader

/-- The leaders of other components that the members of a component refer to, in increasing order
and each once. -/
def leadersReferenced (graph : Graph) (leaders : List Nat) (leader : Nat) : List Nat :=
  let targets := ((membersOf leaders leader).flatMap graph.next).filterMap (leaders[·]?)
  (List.range graph.length).filter fun node => node != leader && targets.contains node

/-- The graph of leaders. -/
def leaderGraph (graph : Graph) (leaders : List Nat) : Graph :=
  (List.range graph.length).map (leadersReferenced graph leaders)

/-- The state of the walk. -/
structure Walk where
  /-- The nodes that were visited. -/
  visited : List Nat := []
  /-- The nodes that were visited and not left, the latest first. -/
  frames : List Frame := []
  /-- The nodes that were left, the latest first. -/
  left : List Nat := []
  deriving DecidableEq, Repr

namespace Walk

/-- Visits a node. -/
def visit (graph : Graph) (w : Walk) (node : Nat) : Walk :=
  { w with
    visited := node :: w.visited
    frames := ⟨node, graph.next node⟩ :: w.frames }

/-- One step: looks at the next edge of the topmost node, or leaves it. -/
def step (graph : Graph) (w : Walk) : Walk :=
  match w.frames with
  | [] => w
  | ⟨node, []⟩ :: frames => { w with frames := frames, left := node :: w.left }
  | ⟨node, child :: pending⟩ :: frames =>
    let w := { w with frames := ⟨node, pending⟩ :: frames }
    if w.visited.contains child then w else w.visit graph child

/-- Several steps. -/
def steps (graph : Graph) : Nat → Walk → Walk
  | 0, w => w
  | n + 1, w => steps graph n (w.step graph)

/-- Walks from a node unless it was visited before. -/
def startAt (graph : Graph) (w : Walk) (root : Nat) : Walk :=
  if w.visited.contains root then w else (w.visit graph root).steps graph graph.work

end Walk

/-- The nodes in the order in which a walk from each of the given roots in turn leaves them. -/
def Graph.postorder (graph : Graph) (roots : List Nat) : List Nat :=
  (roots.foldl (Walk.startAt graph) {}).left.reverse

/-- The nodes of a graph in dependency order. -/
def Graph.order (graph : Graph) : List Nat :=
  let leaders := leadersOf graph.componentNumbers
  ((leaderGraph graph leaders).postorder leaders).flatMap (membersOf leaders)

/-- The components with at least two nodes, ordered by their first members. -/
def Graph.cycles (graph : Graph) : List (List Nat) :=
  let leaders := leadersOf graph.componentNumbers
  ((List.range graph.length).map (membersOf leaders)).filter fun nodes => 1 < nodes.length

/-- The tables at the given positions. -/
def tablesAt (tables : List Table) (positions : List Nat) : List Table :=
  positions.filterMap (tables[·]?)

/-- The tables in dependency order. -/
def sortTables (tables : List Table) : List Table :=
  tablesAt tables (graphOf tables).order

/-- The groups of two or more tables that refer to each other in a circle, each in the order of the
list, ordered by their first tables. -/
def findCycles (tables : List Table) : List (List Table) :=
  (graphOf tables).cycles.map (tablesAt tables)

end SchemaCodegen.Dependency
