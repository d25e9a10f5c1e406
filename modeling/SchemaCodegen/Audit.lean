import SchemaCodegen.ColumnType
import SchemaCodegen.Dependency.Order
import SchemaCodegen.Finding

/-!
# Audits of a schema

What can be remarked about a schema before code is generated from it: references that lead nowhere,
types that are not known, missing primary keys, indexes on unknown columns, and tables that refer to
each other in a circle. None of them stands in the way.
-/

namespace SchemaCodegen.Audit

open SchemaCodegen.Text

variable [Holding]

/-! ## References -/

/-- The finding for a foreign key whose table is not in the schema. -/
def unresolvedTarget (table : Table) (constraint : Constraint) (target : ForeignKey) : Finding :=
  let targetName := target.schema ++ "." ++ target.table
  { severity := .warning
    code := "FK_TARGET_UNRESOLVED"
    message := "Foreign key '" ++ constraint.name ++ "' on '" ++ table.qualifiedName ++
      "' references '" ++ targetName ++ "', which is not in the schema."
    details := [("table", .text table.qualifiedName), ("constraint", .text constraint.name),
      ("target", .text targetName)] }

/-- The finding for a foreign key that refers to columns its table does not have. -/
def missingTargetColumns (table : Table) (constraint : Constraint) (target : ForeignKey)
    (missing : List String) : Finding :=
  let targetName := target.schema ++ "." ++ target.table
  { severity := .warning
    code := "FK_TARGET_COLUMN_MISSING"
    message := "Foreign key '" ++ constraint.name ++ "' on '" ++ table.qualifiedName ++
      "' references missing column(s) " ++ showTexts missing ++ " of '" ++ targetName ++ "'."
    details := [("table", .text table.qualifiedName), ("constraint", .text constraint.name),
      ("target", .text targetName)] }

/-- The finding about one foreign key, if any. -/
def referenceFinding (schema : Schema) (table : Table) (constraint : Constraint)
    (target : ForeignKey) : Option Finding :=
  match schema.table? target.schema target.table with
  | none => some (unresolvedTarget table constraint target)
  | some referenced =>
    let missing := target.columns.filter fun column => (referenced.column? column).isNone
    if missing.isEmpty then none else some (missingTargetColumns table constraint target missing)

/-- The findings about the foreign keys of a table. -/
def tableReferences (schema : Schema) (table : Table) : Findings :=
  table.constraints.filterMap fun constraint =>
    constraint.target?.bind (referenceFinding schema table constraint)

/-- The findings about foreign keys. -/
def references (schema : Schema) : Findings :=
  schema.tables.flatMap (tableReferences schema)

/-! ## Column types -/

/-- The finding for a column whose type is not known. -/
def unsupportedType (table : Table) (column : Column) (type : ColumnType) : Finding :=
  { severity := .warning
    code := "UNSUPPORTED_COLUMN_TYPE"
    message := "Column '" ++ table.qualifiedName ++ "." ++ column.name ++
      "' has unsupported type '" ++ column.typeName ++ "'; rendered as " ++
      type.typeExpr.render ++ "."
    details := [("table", .text table.qualifiedName), ("column", .text column.name),
      ("udt_name", .text column.typeName)] }

/-- The finding about the type of one column, if any. -/
def typeFinding (dialect : Dialect) (table : Table) (column : Column) : Option Finding :=
  let type := ColumnType.ofColumn column dialect
  if type.isFallback then some (unsupportedType table column type) else none

/-- The findings about column types. -/
def columnTypes (schema : Schema) : Findings :=
  schema.tables.flatMap fun table => table.columns.filterMap (typeFinding schema.dialect table)

/-! ## Primary keys -/

/-- The finding for a table or view without a primary key; for a view it is only a note. -/
def missingPrimaryKey (table : Table) : Finding :=
  let what := if table.isView then "View" else "Table"
  { severity := if table.isView then .info else .warning
    code := if table.isView then "VIEW_WITHOUT_PRIMARY_KEY" else "MISSING_PRIMARY_KEY"
    message := what ++ " '" ++ table.qualifiedName ++
      "' has no primary key; its declarative class cannot be mapped as-is."
    details := [("table", .text table.qualifiedName)] }

/-- The finding about the primary key of one table, if any. -/
def primaryKeyFinding (table : Table) : Option Finding :=
  if table.primaryKeyColumns.isEmpty then some (missingPrimaryKey table) else none

/-- The findings about primary keys. -/
def primaryKeys (schema : Schema) : Findings :=
  schema.tables.filterMap primaryKeyFinding

/-! ## Indexes -/

/-- The finding for an index on columns that its table does not have. -/
def unknownIndexColumns (table : Table) (index : Index) (missing : List String) : Finding :=
  { severity := .warning
    code := "INDEX_COLUMN_NOT_FOUND"
    message := "Index '" ++ index.name ++ "' on '" ++ table.qualifiedName ++
      "' uses unknown column(s) " ++ showTexts missing ++ "."
    details := [("table", .text table.qualifiedName), ("index", .text index.name)] }

/-- The finding about one index, if any. -/
def indexFinding (table : Table) (index : Index) : Option Finding :=
  let missing := index.columns.filter fun column => !table.columnNames.contains column
  if missing.isEmpty then none else some (unknownIndexColumns table index missing)

/-- The findings about indexes. -/
def indexes (schema : Schema) : Findings :=
  schema.tables.flatMap fun table => table.indexes.filterMap (indexFinding table)

/-! ## Circles -/

/-- The finding for tables that refer to each other in a circle. -/
def circle (tables : List Table) : Finding :=
  let names := tables.map Table.qualifiedName
  { severity := .warning
    code := "CIRCULAR_DEPENDENCY"
    message := "Circular foreign key dependency: " ++
      String.intercalate " → " (names ++ names.take 1) ++ "."
    details := [("tables", Document.texts names)] }

/-- The findings about circles. -/
def circles (schema : Schema) : Findings :=
  (Dependency.findCycles schema.tables).map circle

/-- All findings: about references, types, primary keys, indexes and circles. -/
def full (schema : Schema) : Findings :=
  references schema ++ columnTypes schema ++ primaryKeys schema ++ indexes schema ++
    circles schema

end SchemaCodegen.Audit
