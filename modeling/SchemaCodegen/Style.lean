import SchemaCodegen.Breakdown
import SchemaCodegen.Style.Declarative
import SchemaCodegen.Style.TableObjects
import SchemaCodegen.Text.Blank

/-!
# Styles of generated code

The styles that a schema can be written in, and how one is chosen by name.
-/

namespace SchemaCodegen

open SchemaCodegen.Text

/-- A style of generated code. -/
inductive Style where
  /-- Classes with annotated attributes. -/
  | declarative
  /-- Table objects. -/
  | tables
  deriving DecidableEq, Repr

namespace Style

/-- The name of a style. -/
def name : Style → String
  | declarative => "declarative"
  | tables => "tables"

/-- All styles. -/
def all : List Style :=
  [declarative, tables]

/-- The style of the given name; case and blanks around it do not matter. -/
def ofName? (text : String) : Option Style :=
  let wanted := lowerAfter false (strip text.toList)
  all.find? fun style => style.name.toList == wanted

/-- The message for a name that no style has. -/
def unknownMessage (text : String) : String :=
  "Unknown generator '" ++ text ++ "'. Valid choices: " ++
    String.intercalate ", " (all.map name) ++ "."

/-- A short description. -/
def describe : Style → String
  | declarative => "<DeclarativeGenerator declarative>"
  | tables => "<TablesGenerator tables>"

/-- What the style makes the types of columns for. -/
def typeUse : Style → TypeUse
  | declarative => .attribute
  | tables => .tableColumn

/-- The tables of a schema in the order in which the style writes them. -/
def tablesInOrder (style : Style) (schema : Schema) : List Table :=
  match style with
  | declarative => schema.tables
  | tables => Dependency.sortTables schema.tables

/-- The module of a schema in the style. -/
def toModule (style : Style) (schema : Schema) (options : Options) : Code.Module :=
  match style with
  | declarative => Declarative.toModule schema options
  | tables => TableObjects.toModule schema options

end Style

end SchemaCodegen
