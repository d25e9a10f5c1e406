import SchemaCodegen.Code.Imports
import SchemaCodegen.Text.Lines

/-!
# Generated modules

A generated module is an import block, a preamble and one block for each table, set apart by empty
lines. The two kinds of blocks are classes and table assignments; each knows its lines and the
symbols that its code mentions.
-/

namespace SchemaCodegen.Code

open SchemaCodegen.Text

/-- The indentation of a body. -/
def indent : String := "    "

/-- One line for each item, with a comma after every item but the last. -/
def bodyLines (margin : String) : List String → List String
  | [] => []
  | [item] => [margin ++ item]
  | item :: items => (margin ++ item ++ ",") :: bodyLines margin items

/-! ## Classes -/

/-- An attribute of a class that stands for a column. -/
structure Attribute where
  /-- The name of the attribute. -/
  name : String
  /-- Its annotation. -/
  hint : Expr
  /-- Its value. -/
  value : Expr

namespace Attribute

/-- The line of the attribute. -/
def line (a : Attribute) : String :=
  indent ++ a.name ++ ": " ++ a.hint.render ++ " = " ++
    a.value.render

/-- The symbols that the attribute mentions. -/
def symbols (a : Attribute) : List Symbol :=
  a.hint.symbols ++ a.value.symbols

end Attribute

/-- A class that stands for a table. -/
structure ClassBlock where
  /-- The name of the class. -/
  name : String
  /-- The name of the table. -/
  table : String
  /-- What is stated of the table as a whole, if anything. -/
  tableArgs : Option Expr
  /-- The attributes, one for each column. -/
  attributes : List Attribute

namespace ClassBlock

/-- The line that states something of the table as a whole. -/
def argsLines (block : ClassBlock) : List String :=
  match block.tableArgs with
  | none => []
  | some args => [indent ++ "__table_args__ = " ++ args.render]

/-- The lines of the attributes, after an empty line if there are any. -/
def attributeLines (block : ClassBlock) : List String :=
  match block.attributes with
  | [] => []
  | attributes => "" :: attributes.map Attribute.line

/-- The lines of the class. -/
def lines (block : ClassBlock) : List String :=
  ["class " ++ block.name ++ "(Base):", indent ++ "__tablename__ = " ++ quote block.table] ++
    block.argsLines ++ block.attributeLines

/-- The symbols that what is stated of the table mentions. -/
def argsSymbols (block : ClassBlock) : List Symbol :=
  match block.tableArgs with
  | none => []
  | some args => args.symbols

/-- The symbols that the class mentions. -/
def symbols (block : ClassBlock) : List Symbol :=
  block.argsSymbols ++ block.attributes.flatMap Attribute.symbols

end ClassBlock

/-! ## Table assignments -/

/-- An assignment of a table object to a variable. -/
structure TableBlock where
  /-- The name of the variable. -/
  name : String
  /-- The name of the table. -/
  table : String
  /-- The arguments after the name of the table and the collection it belongs to. -/
  items : List Expr

namespace TableBlock

/-- The lines of the assignment. -/
def lines (block : TableBlock) : List String :=
  (block.name ++ " = Table(") ::
    bodyLines indent ((quote block.table ++ ", metadata") :: block.items.map Expr.render) ++ [")"]

/-- The symbols that the assignment mentions. -/
def symbols (block : TableBlock) : List Symbol :=
  block.items.flatMap Expr.symbols

end TableBlock

/-! ## Modules -/

/-- A generated module in lines. -/
structure Module where
  /-- The import block. -/
  imports : Imports
  /-- The lines between the imports and the blocks. -/
  preamble : List String
  /-- The lines of each block. -/
  blocks : List (List String)

namespace Module

/-- The sections of the module, each in lines. -/
def sections (m : Module) : List (List String) :=
  m.imports.lines :: m.preamble :: m.blocks

/-- The text of the module: its sections with an empty line between them, and a line feed at the
end. -/
def render (m : Module) : String :=
  String.intercalate "\n\n" (m.sections.map joinLines) ++ "\n"

end Module

end SchemaCodegen.Code
