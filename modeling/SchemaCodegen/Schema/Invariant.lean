import SchemaCodegen.Schema.Basic

/-!
# What every schema satisfies

The conditions that a schema read from a document satisfies and that a selection of its tables
keeps.
-/

namespace SchemaCodegen

/-- Only an identity column has identity options, and these reserve at least one value; names are
not empty, and numbers are within their bounds. -/
structure Column.WellFormed (column : Column) : Prop where
  /-- The column has a name. -/
  name_ne : column.name ≠ ""
  /-- The column has a type. -/
  typeName_ne : column.typeName ≠ ""
  /-- Positions count from one. -/
  one_le_position : 1 ≤ column.position
  /-- The number of digits is not negative. -/
  precision_nonneg : ∀ n ∈ column.precision, 0 ≤ n
  /-- The number of digits after the point is not negative. -/
  scale_nonneg : ∀ n ∈ column.scale, 0 ≤ n
  /-- Identity options belong to identity columns. -/
  isIdentity_of_identity : column.identity.isSome → column.isIdentity
  /-- At least one value is reserved at once. -/
  one_le_cache : ∀ identity ∈ column.identity, 1 ≤ identity.cache

/-- A foreign key refers to a named table of a named schema by at least one column. -/
structure ForeignKey.WellFormed (target : ForeignKey) : Prop where
  /-- The schema has a name. -/
  schema_ne : target.schema ≠ ""
  /-- The table has a name. -/
  table_ne : target.table ≠ ""
  /-- There is a referenced column. -/
  columns_ne : target.columns ≠ []

/-- A constraint has a name; a foreign key has as many columns there as here. -/
structure Constraint.WellFormed (constraint : Constraint) : Prop where
  /-- The constraint has a name. -/
  name_ne : constraint.name ≠ ""
  /-- The referenced side is well formed. -/
  target : ∀ target ∈ constraint.target?, target.WellFormed
  /-- Both sides have the same number of columns. -/
  length_eq : ∀ target ∈ constraint.target?, target.columns.length = constraint.columns.length

/-- An index has a name and at least one column, and names none twice. -/
structure Index.WellFormed (index : Index) : Prop where
  /-- The index has a name. -/
  name_ne : index.name ≠ ""
  /-- There is a column. -/
  columns_ne : index.columns ≠ []
  /-- No column is named twice. -/
  nodup : index.columns.Nodup

/-- The parts of a table are well formed, positions increase, and constraints name its columns. -/
structure Table.WellFormed (table : Table) : Prop where
  /-- The table has a name. -/
  name_ne : table.name ≠ ""
  /-- Its columns are well formed. -/
  columns : ∀ column ∈ table.columns, column.WellFormed
  /-- Its constraints are well formed. -/
  constraints : ∀ constraint ∈ table.constraints, constraint.WellFormed
  /-- Its indexes are well formed. -/
  indexes : ∀ index ∈ table.indexes, index.WellFormed
  /-- Positions increase from column to column. -/
  positions : (table.columns.map (·.position)).Pairwise (· < ·)
  /-- Constraints name columns of the table. -/
  constraint_columns :
    ∀ constraint ∈ table.constraints, ∀ column ∈ constraint.columns, column ∈ table.columnNames

/-- The tables of a schema are well formed and told apart by schema and name. -/
structure Schema.WellFormed (schema : Schema) : Prop where
  /-- Its tables are well formed. -/
  tables : ∀ table ∈ schema.tables, table.WellFormed
  /-- No two tables have the same schema and name. -/
  keys : (schema.tables.map Table.key).Nodup

/-! ## Deciding it -/

instance (column : Column) : Decidable column.WellFormed :=
  decidable_of_iff
    (column.name ≠ "" ∧ column.typeName ≠ "" ∧ 1 ≤ column.position ∧
      (∀ n ∈ column.precision, 0 ≤ n) ∧ (∀ n ∈ column.scale, 0 ≤ n) ∧
      (column.identity.isSome → column.isIdentity) ∧
      ∀ identity ∈ column.identity, 1 ≤ identity.cache)
    ⟨fun ⟨a, b, c, d, e, f, g⟩ => ⟨a, b, c, d, e, f, g⟩,
      fun ⟨a, b, c, d, e, f, g⟩ => ⟨a, b, c, d, e, f, g⟩⟩

instance (target : ForeignKey) : Decidable target.WellFormed :=
  decidable_of_iff (target.schema ≠ "" ∧ target.table ≠ "" ∧ target.columns ≠ [])
    ⟨fun ⟨a, b, c⟩ => ⟨a, b, c⟩, fun ⟨a, b, c⟩ => ⟨a, b, c⟩⟩

instance (constraint : Constraint) : Decidable constraint.WellFormed :=
  decidable_of_iff
    (constraint.name ≠ "" ∧ (∀ target ∈ constraint.target?, target.WellFormed) ∧
      ∀ target ∈ constraint.target?, target.columns.length = constraint.columns.length)
    ⟨fun ⟨a, b, c⟩ => ⟨a, b, c⟩, fun ⟨a, b, c⟩ => ⟨a, b, c⟩⟩

instance (index : Index) : Decidable index.WellFormed :=
  decidable_of_iff (index.name ≠ "" ∧ index.columns ≠ [] ∧ index.columns.Nodup)
    ⟨fun ⟨a, b, c⟩ => ⟨a, b, c⟩, fun ⟨a, b, c⟩ => ⟨a, b, c⟩⟩

instance (table : Table) : Decidable table.WellFormed :=
  decidable_of_iff
    (table.name ≠ "" ∧ (∀ column ∈ table.columns, column.WellFormed) ∧
      (∀ constraint ∈ table.constraints, constraint.WellFormed) ∧
      (∀ index ∈ table.indexes, index.WellFormed) ∧
      (table.columns.map (·.position)).Pairwise (· < ·) ∧
      ∀ constraint ∈ table.constraints, ∀ column ∈ constraint.columns, column ∈ table.columnNames)
    ⟨fun ⟨a, b, c, d, e, f⟩ => ⟨a, b, c, d, e, f⟩, fun ⟨a, b, c, d, e, f⟩ => ⟨a, b, c, d, e, f⟩⟩

instance (schema : Schema) : Decidable schema.WellFormed :=
  decidable_of_iff
    ((∀ table ∈ schema.tables, table.WellFormed) ∧ (schema.tables.map Table.key).Nodup)
    ⟨fun ⟨a, b⟩ => ⟨a, b⟩, fun ⟨a, b⟩ => ⟨a, b⟩⟩

end SchemaCodegen
