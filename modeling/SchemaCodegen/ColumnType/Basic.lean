import SchemaCodegen.Code.Vocabulary
import SchemaCodegen.Schema.Basic

/-!
# Column types of generated code

What a column's type is in generated code: a type of the database library with arguments, an
enumeration, an array of another type, or nothing known. Each has a type expression and an
annotation; the imports of both are read off these expressions.
-/

namespace SchemaCodegen

open SchemaCodegen.Code SchemaCodegen.Code.Vocabulary

/-- The type of a column in generated code. -/
inductive ColumnType where
  /-- A type of the database library with its arguments, and the annotation that goes with it. -/
  | scalar (type : Symbol) (args : List Expr) (hint : Symbol)
  /-- An enumeration with its labels and its name. -/
  | enumeration (labels : List String) (name : String)
  /-- An array. -/
  | array (element : ColumnType)
  /-- A type that is not known. -/
  | unmapped

namespace ColumnType

/-- The generic array type. -/
def arraySymbol : Symbol :=
  ⟨.importedFrom "sqlalchemy.dialects.postgresql", "ARRAY"⟩

/-- The enumeration type. -/
def enumSymbol : Symbol :=
  core "Enum"

/-- The type that stands for an unknown one. -/
def nullSymbol : Symbol :=
  ⟨.importedFrom "sqlalchemy.sql.sqltypes", "NullType"⟩

/-- The type of the labels of an enumeration. -/
def labelType : ColumnType :=
  scalar (core "String") [] (builtin "str")

/-- A type with its arguments; without arguments it is written bare. -/
def applied (type : Symbol) : List Expr → Expr
  | [] => .symbol type
  | args => .call type args

/-- The type expression. -/
def typeExpr : ColumnType → Expr
  | scalar type args _ => applied type args
  | enumeration labels name => .call enumSymbol (Expr.literals labels ++ [named name])
  | array element => .call arraySymbol [element.typeExpr]
  | unmapped => .symbol nullSymbol

/-- What has to be imported for the type expression, in the order of its writing. -/
def imports (type : ColumnType) : List (String × String) :=
  type.typeExpr.symbols.filterMap Symbol.imported?

/-- The annotation of a value of the type. -/
def hint : ColumnType → Expr
  | scalar _ _ hint => .symbol hint
  | enumeration _ _ => .symbol (builtin "str")
  | array element => .index (builtin "list") element.hint
  | unmapped => .symbol (typing "Any")

/-- Whether the annotation needs a module that is imported as a whole. -/
def needsModule (type : ColumnType) (module : String) : Bool :=
  type.hint.symbols.any fun symbol => symbol.home == .memberOf module

/-- Whether the annotation needs the type that stands for any value. -/
def needsAny (type : ColumnType) : Bool :=
  type.hint.symbols.contains (typing "Any")

/-- How many arrays lie inside each other. -/
def depth : ColumnType → Nat
  | scalar _ _ _ => 0
  | enumeration _ _ => 0
  | array element => element.depth + 1
  | unmapped => 0

/-- The type of the parts of a value: the elements of an array, the labels of an enumeration. -/
def element? : ColumnType → Option ColumnType
  | scalar _ _ _ => none
  | enumeration _ _ => some labelType
  | array element => some element
  | unmapped => none

/-- Whether the type, or that of its innermost elements, is unknown. -/
def isFallback : ColumnType → Bool
  | scalar _ _ _ => false
  | enumeration _ _ => false
  | array element => element.isFallback
  | unmapped => true

end ColumnType

/-! ## Rows of a type table -/

/-- Which arguments a type takes. -/
inductive TypeArguments where
  /-- None. -/
  | bare
  /-- Always the same one. -/
  | fixed (argument : Expr)
  /-- The length of the column, where it is positive. -/
  | length
  /-- The precision of the column, and its scale after it. -/
  | numeric

/-- One row of a type table: the type that stands for a type name of the database. -/
structure TypeRow where
  /-- The type name of the database, in small letters. -/
  key : String
  /-- The module that the type is imported from. -/
  module : String
  /-- The name of the type. -/
  name : String
  /-- The annotation of its values. -/
  hint : Symbol
  /-- Its arguments. -/
  arguments : TypeArguments := .bare

namespace TypeRow

/-- The type of the row as a symbol. -/
def symbol (row : TypeRow) : Symbol :=
  ⟨.importedFrom row.module, row.name⟩

/-- The arguments that a column gives to a type. -/
def argumentsFor (column : Column) : TypeArguments → List Expr
  | .bare => []
  | .fixed argument => [argument]
  | .length =>
    match column.length with
    | some n => if 0 < n then [.number n] else []
    | none => []
  | .numeric =>
    match column.precision, column.scale with
    | some precision, some scale => [.number precision, .number scale]
    | some precision, none => [.number precision]
    | none, _ => []

/-- The type that the row gives to a column. -/
def typeFor (row : TypeRow) (column : Column) : ColumnType :=
  .scalar row.symbol (argumentsFor column row.arguments) row.hint

/-- The row of a table for a type name in small letters. -/
def find? (rows : List TypeRow) (key : String) : Option TypeRow :=
  List.find? (fun row => row.key == key) rows

end TypeRow

end SchemaCodegen
