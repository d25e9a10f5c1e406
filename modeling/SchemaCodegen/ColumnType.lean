import SchemaCodegen.ColumnType.Postgresql
import SchemaCodegen.ColumnType.SqlServer

/-!
# The type of a column

The type that generated code gives to a column depends on the dialect the column was read from. A
type that is not known never stands in the way: it becomes the null type.
-/

namespace SchemaCodegen.ColumnType

/-- The type of a column. -/
def ofColumn (column : Column) : Dialect → ColumnType
  | .postgresql => Postgresql.ofColumn column
  | .mssql => SqlServer.ofColumn column

/-- The names of all types that a type expression can mention. -/
def symbolNames : List String :=
  Postgresql.rows.map (·.name) ++ SqlServer.rows.map (·.name) ++
    ["ARRAY", "Enum", "String", "NullType"]

end SchemaCodegen.ColumnType
