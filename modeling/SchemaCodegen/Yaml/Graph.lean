import SchemaCodegen.Yaml.Kind

/-!
# Graphs of nodes

A YAML text describes nodes. A node may be given a name and stand in several places, even inside
itself, so the nodes are kept by number, and a list or mapping gives the numbers of the nodes inside
it.
-/

namespace SchemaCodegen.Yaml

/-- A node. -/
inductive Node where
  /-- A scalar. -/
  | scalar (kind : Kind) (text : String)
  /-- A list of nodes. -/
  | list (kind : Kind) (items : List Nat)
  /-- A mapping between nodes. -/
  | mapping (kind : Kind) (entries : List (Nat × Nat))

namespace Node

/-- The node that stands where none is written. -/
def absent : Node :=
  .scalar .null ""

/-- The kind of a node. -/
def kind : Node → Kind
  | scalar kind _ => kind
  | list kind _ => kind
  | mapping kind _ => kind

/-- The node with another kind. -/
def withKind (node : Node) (kind : Kind) : Node :=
  match node with
  | scalar _ text => .scalar kind text
  | list _ items => .list kind items
  | mapping _ entries => .mapping kind entries

/-- The node with other entries, if it is a mapping. -/
def withEntries (node : Node) (entries : List (Nat × Nat)) : Node :=
  match node with
  | mapping kind _ => .mapping kind entries
  | other => other

end Node

/-- Nodes by number. -/
abbrev Nodes := Array Node

namespace Nodes

/-- The node with a number. -/
def node (nodes : Nodes) (number : Nat) : Node :=
  nodes[number]?.getD Node.absent

/-- The kind of the node with a number. -/
def kind (nodes : Nodes) (number : Nat) : Kind :=
  (nodes.node number).kind

/-- The entries of the mapping with a number, if it is one. -/
def entries? (nodes : Nodes) (number : Nat) : Option (List (Nat × Nat)) :=
  match nodes.node number with
  | .mapping _ entries => some entries
  | _ => none

/-- The nodes with another one under a number. -/
def put (nodes : Nodes) (number : Nat) (node : Node) : Nodes :=
  nodes.setIfInBounds number node

end Nodes

/-- The nodes of a text. -/
structure Graph where
  /-- The nodes by number. -/
  nodes : Nodes
  /-- The number of the node that is the whole document. -/
  root : Nat
  /-- The numbers of the nodes, each after those of the nodes inside it, unless it is inside one of
  them itself. -/
  order : List Nat
  /-- Whether some node is inside itself. -/
  circular : Bool

end SchemaCodegen.Yaml
