import SchemaCodegen.ColumnType.Basic
import SchemaCodegen.Text.Case

/-!
# Column types of PostgreSQL

A type name is looked up in small letters; where it is unknown, the description of the type may name
a known one. A column is an array when its description says so or its type name begins with an
underscore; its element type is that of the rest of the name, which may be an array again.
-/

namespace SchemaCodegen.ColumnType.Postgresql

open SchemaCodegen.Code SchemaCodegen.Code.Vocabulary SchemaCodegen.Text

/-- The module of the types that all dialects share. -/
def coreModule : String := "sqlalchemy"

/-- The module of the types of this dialect. -/
def dialectModule : String := "sqlalchemy.dialects.postgresql"

/-- The known types. -/
def rows : List TypeRow :=
  [⟨"int2", coreModule, "SmallInteger", builtin "int", .bare⟩,
    ⟨"int4", coreModule, "Integer", builtin "int", .bare⟩,
    ⟨"int8", coreModule, "BigInteger", builtin "int", .bare⟩,
    ⟨"oid", dialectModule, "OID", builtin "int", .bare⟩,
    ⟨"float4", coreModule, "REAL", builtin "float", .bare⟩,
    ⟨"float8", coreModule, "Double", builtin "float", .fixed (.number 53)⟩,
    ⟨"numeric", coreModule, "Numeric", member "decimal" "Decimal", .numeric⟩,
    ⟨"money", dialectModule, "MONEY", builtin "str", .bare⟩,
    ⟨"bool", coreModule, "Boolean", builtin "bool", .bare⟩,
    ⟨"varchar", coreModule, "String", builtin "str", .length⟩,
    ⟨"bpchar", coreModule, "CHAR", builtin "str", .length⟩,
    ⟨"text", coreModule, "Text", builtin "str", .bare⟩,
    ⟨"citext", dialectModule, "CITEXT", builtin "str", .bare⟩,
    ⟨"bytea", coreModule, "LargeBinary", builtin "bytes", .bare⟩,
    ⟨"date", coreModule, "Date", member "datetime" "date", .bare⟩,
    ⟨"time", coreModule, "Time", member "datetime" "time", .bare⟩,
    ⟨"timetz", coreModule, "Time", member "datetime" "time", .fixed (.truth true)⟩,
    ⟨"timestamp", coreModule, "DateTime", member "datetime" "datetime", .bare⟩,
    ⟨"timestamptz", coreModule, "DateTime", member "datetime" "datetime", .fixed (.truth true)⟩,
    ⟨"interval", dialectModule, "INTERVAL", member "datetime" "timedelta", .bare⟩,
    ⟨"uuid", coreModule, "Uuid", member "uuid" "UUID", .bare⟩,
    ⟨"json", coreModule, "JSON", builtin "dict", .bare⟩,
    ⟨"jsonb", dialectModule, "JSONB", builtin "dict", .bare⟩,
    ⟨"hstore", dialectModule, "HSTORE", builtin "dict", .bare⟩,
    ⟨"inet", dialectModule, "INET", builtin "str", .bare⟩,
    ⟨"cidr", dialectModule, "CIDR", builtin "str", .bare⟩,
    ⟨"macaddr", dialectModule, "MACADDR", builtin "str", .bare⟩,
    ⟨"macaddr8", dialectModule, "MACADDR8", builtin "str", .bare⟩,
    ⟨"tsvector", dialectModule, "TSVECTOR", builtin "str", .bare⟩]

/-- Descriptions of types in the words of the SQL standard, with the type names they stand for. -/
def aliases : List (String × String) :=
  [("smallint", "int2"),
    ("integer", "int4"),
    ("bigint", "int8"),
    ("real", "float4"),
    ("double precision", "float8"),
    ("decimal", "numeric"),
    ("boolean", "bool"),
    ("character varying", "varchar"),
    ("character", "bpchar"),
    ("time without time zone", "time"),
    ("time with time zone", "timetz"),
    ("timestamp without time zone", "timestamp"),
    ("timestamp with time zone", "timestamptz")]

/-- The row of a type name, or else of the type that the description names. -/
def row? (typeName dataType : String) : Option TypeRow :=
  match TypeRow.find? rows (lower typeName) with
  | some row => some row
  | none => (aliases.lookup (lower dataType)).bind (TypeRow.find? rows)

/-- Whether the column is an array. -/
def isArray (column : Column) : Bool :=
  upper column.dataType == "ARRAY" || column.typeName.toList.head? == some '_'

/-- The type of the column's values if they had the given type name and description and were no
arrays. -/
def plainType (column : Column) (typeName dataType : String) : ColumnType :=
  match column.labels with
  | some labels => .enumeration labels typeName
  | none =>
    match row? typeName dataType with
    | some row => row.typeFor column
    | none => .unmapped

/-- The type of array elements by their type name: each underscore in front is one more array. -/
def elementType (column : Column) : List Char → ColumnType
  | [] => plainType column "" ""
  | c :: rest =>
    if c = '_' then .array (elementType column rest)
    else plainType column (String.ofList (c :: rest)) ""

/-- The text without the underscore in front of it, if one is there. -/
def dropUnderscore : List Char → List Char
  | [] => []
  | c :: rest => if c = '_' then rest else c :: rest

/-- The type of a column. -/
def ofColumn (column : Column) : ColumnType :=
  if isArray column then
    .array (elementType column (dropUnderscore (lowerAfter false column.typeName.toList)))
  else plainType column column.typeName column.dataType

end SchemaCodegen.ColumnType.Postgresql
