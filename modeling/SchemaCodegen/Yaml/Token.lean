import SchemaCodegen.Yaml.Flaw

/-!
# Tokens of a YAML text

A YAML text is cut into tokens. Besides the signs and scalars that are written there are tokens that
stand for the layout: where a list or mapping of a block begins and where it ends.
-/

namespace SchemaCodegen.Yaml

/-- A line that speaks to the reader of the text. -/
inductive Directive where
  /-- The version of the format. -/
  | version (major : Nat)
  /-- A short form of tags. -/
  | tagHandle (handle start : String)
  /-- Anything else. -/
  | other
  deriving DecidableEq, Repr

/-- A token. -/
inductive Token where
  /-- A line that speaks to the reader. -/
  | directive (directive : Directive)
  /-- The line that begins a document. -/
  | documentStart
  /-- The line that ends a document. -/
  | documentEnd
  /-- A list of a block begins. -/
  | blockListStart
  /-- A mapping of a block begins. -/
  | blockMappingStart
  /-- A list or mapping of a block ends. -/
  | blockEnd
  /-- An opening square bracket. -/
  | flowListStart
  /-- A closing square bracket. -/
  | flowListEnd
  /-- An opening curly bracket. -/
  | flowMappingStart
  /-- A closing curly bracket. -/
  | flowMappingEnd
  /-- A dash in front of an item. -/
  | item
  /-- A comma. -/
  | comma
  /-- A key comes next. -/
  | key
  /-- A value comes next. -/
  | value
  /-- A reference to a node. -/
  | alias (name : String)
  /-- A name for the node that comes next. -/
  | anchor (name : String)
  /-- A tag of the node that comes next: a short form, if one is used, and the rest. -/
  | tag (handle : Option String) (suffix : String)
  /-- A scalar; `plain` holds for one without quotes. -/
  | scalar (text : String) (plain : Bool)
  deriving DecidableEq, Repr

/-- The tokens of a text. -/
structure TokenStream where
  /-- The tokens that can be read. -/
  tokens : List Token
  /-- The flaw that keeps further tokens from being read, if there is one. -/
  flaw : Option Flaw := none

end SchemaCodegen.Yaml
