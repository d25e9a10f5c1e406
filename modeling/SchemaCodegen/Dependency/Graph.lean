import SchemaCodegen.Schema.Basic

/-!
# The reference graph of tables

The tables of a list are the nodes, told by their positions. A table has an edge to every other
table of the list that one of its foreign keys refers to. References to the table itself and to
tables outside the list are no edges.
-/

namespace SchemaCodegen.Dependency

/-- A graph by its adjacency lists: the node at each position is followed by the listed nodes. -/
abbrev Graph := List (List Nat)

/-- The nodes that follow a node. -/
def Graph.next (graph : Graph) (node : Nat) : List Nat :=
  graph[node]?.getD []

/-- Whether every listed node is a node of the graph. -/
def Graph.isClosed (graph : Graph) : Bool :=
  graph.all fun nodes => nodes.all fun node => node < graph.length

/-- An edge of the graph. -/
def Graph.Edge (graph : Graph) (a b : Nat) : Prop :=
  b ∈ graph.next a

/-- A path of the graph, possibly empty. -/
inductive Graph.Reaches (graph : Graph) (a : Nat) : Nat → Prop where
  /-- Every node reaches itself. -/
  | refl : Reaches graph a a
  /-- A path goes on along an edge. -/
  | tail {b c : Nat} (path : Reaches graph a b) (edge : graph.Edge b c) : Reaches graph a c

/-- Each of two nodes reaches the other. -/
def Graph.Connected (graph : Graph) (a b : Nat) : Prop :=
  graph.Reaches a b ∧ graph.Reaches b a

/-- An edge is a path. -/
theorem Graph.Reaches.single {graph : Graph} {a b : Nat} (h : graph.Edge a b) :
    graph.Reaches a b :=
  .tail .refl h

/-- A path may be followed by another one. -/
theorem Graph.Reaches.trans {graph : Graph} {a b c : Nat} (hab : graph.Reaches a b)
    (hbc : graph.Reaches b c) : graph.Reaches a c := by
  induction hbc with
  | refl => exact hab
  | tail _ edge ih => exact .tail ih edge

/-- Every node is connected with itself. -/
theorem Graph.Connected.refl (graph : Graph) (a : Nat) : graph.Connected a a :=
  ⟨.refl, .refl⟩

/-- Being connected goes both ways. -/
theorem Graph.Connected.symm {graph : Graph} {a b : Nat} (h : graph.Connected a b) :
    graph.Connected b a :=
  ⟨h.2, h.1⟩

/-- What is connected with a connected node is connected. -/
theorem Graph.Connected.trans {graph : Graph} {a b c : Nat} (hab : graph.Connected a b)
    (hbc : graph.Connected b c) : graph.Connected a c :=
  ⟨hab.1.trans hbc.1, hbc.2.trans hab.2⟩

/-- The position of the table with the given schema and name. -/
def positionOf? (tables : List Table) (key : String × String) : Option Nat :=
  tables.findIdx? fun table => table.key == key

/-- The tables that the foreign keys of a table refer to. -/
def referencedKeys (table : Table) : List (String × String) :=
  table.constraints.filterMap fun constraint =>
    constraint.target?.map fun target => (target.schema, target.table)

/-- The positions of the other listed tables that the table at a position refers to, in increasing
order and each once. -/
def referencesOf (tables : List Table) (position : Nat) (table : Table) : List Nat :=
  let found := (referencedKeys table).filterMap (positionOf? tables)
  (List.range tables.length).filter fun node => node != position && found.contains node

/-- The reference graph of a list of tables. -/
def graphOf (tables : List Table) : Graph :=
  tables.mapIdx fun position table => referencesOf tables position table

end SchemaCodegen.Dependency
