import SchemaCodegen.Yaml.Layout
import SchemaCodegen.Yaml.Node
import SchemaCodegen.Yaml.Value

/-!
# Reading a YAML document

A YAML text is cut into tokens, the tokens are read as a graph of nodes, and the graph is turned
into a document. A text without a node is a document without a value.
-/

namespace SchemaCodegen.Yaml

open SchemaCodegen.Text (Holding)

variable [Holding]

/-- Reads a YAML document with at most the given number of lists and mappings inside each other. -/
def read (depth : Nat) (text : List Char) : Except Flaw Document := do
  match ← Graph.ofTokens? depth (tokens text) with
  | none => return .null
  | some graph => graph.toDocument

end SchemaCodegen.Yaml
