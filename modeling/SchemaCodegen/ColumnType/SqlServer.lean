import SchemaCodegen.ColumnType.Basic
import SchemaCodegen.Text.Case

/-!
# Column types of SQL Server

A type name is looked up in small letters; where it is unknown, the description of the type is
looked up in the same table.
-/

namespace SchemaCodegen.ColumnType.SqlServer

open SchemaCodegen.Code SchemaCodegen.Code.Vocabulary SchemaCodegen.Text

/-- The module of the types that all dialects share. -/
def coreModule : String := "sqlalchemy"

/-- The module of the types of this dialect. -/
def dialectModule : String := "sqlalchemy.dialects.mssql"

/-- The known types. -/
def rows : List TypeRow :=
  [⟨"tinyint", dialectModule, "TINYINT", builtin "int", .bare⟩,
    ⟨"smallint", coreModule, "SmallInteger", builtin "int", .bare⟩,
    ⟨"int", coreModule, "Integer", builtin "int", .bare⟩,
    ⟨"bigint", coreModule, "BigInteger", builtin "int", .bare⟩,
    ⟨"bit", coreModule, "Boolean", builtin "bool", .bare⟩,
    ⟨"decimal", coreModule, "Numeric", member "decimal" "Decimal", .numeric⟩,
    ⟨"numeric", coreModule, "Numeric", member "decimal" "Decimal", .numeric⟩,
    ⟨"money", dialectModule, "MONEY", member "decimal" "Decimal", .bare⟩,
    ⟨"smallmoney", dialectModule, "SMALLMONEY", member "decimal" "Decimal", .bare⟩,
    ⟨"float", coreModule, "Float", builtin "float", .fixed (.number 53)⟩,
    ⟨"real", coreModule, "REAL", builtin "float", .bare⟩,
    ⟨"date", coreModule, "Date", member "datetime" "date", .bare⟩,
    ⟨"time", dialectModule, "TIME", member "datetime" "time", .bare⟩,
    ⟨"datetime", coreModule, "DATETIME", member "datetime" "datetime", .bare⟩,
    ⟨"datetime2", dialectModule, "DATETIME2", member "datetime" "datetime", .bare⟩,
    ⟨"smalldatetime", dialectModule, "SMALLDATETIME", member "datetime" "datetime", .bare⟩,
    ⟨"datetimeoffset", dialectModule, "DATETIMEOFFSET", member "datetime" "datetime", .bare⟩,
    ⟨"char", coreModule, "CHAR", builtin "str", .length⟩,
    ⟨"varchar", coreModule, "String", builtin "str", .length⟩,
    ⟨"nchar", coreModule, "NCHAR", builtin "str", .length⟩,
    ⟨"nvarchar", coreModule, "NVARCHAR", builtin "str", .length⟩,
    ⟨"text", coreModule, "Text", builtin "str", .bare⟩,
    ⟨"ntext", dialectModule, "NTEXT", builtin "str", .bare⟩,
    ⟨"binary", coreModule, "BINARY", builtin "bytes", .length⟩,
    ⟨"varbinary", coreModule, "VARBINARY", builtin "bytes", .length⟩,
    ⟨"image", dialectModule, "IMAGE", builtin "bytes", .bare⟩,
    ⟨"uniqueidentifier", coreModule, "Uuid", member "uuid" "UUID", .bare⟩,
    ⟨"xml", dialectModule, "XML", builtin "str", .bare⟩]

/-- The row of a type name, or else of the description. -/
def row? (typeName dataType : String) : Option TypeRow :=
  match TypeRow.find? rows (lower typeName) with
  | some row => some row
  | none => TypeRow.find? rows (lower dataType)

/-- The type of a column. -/
def ofColumn (column : Column) : ColumnType :=
  match row? column.typeName column.dataType with
  | some row => row.typeFor column
  | none => .unmapped

end SchemaCodegen.ColumnType.SqlServer
