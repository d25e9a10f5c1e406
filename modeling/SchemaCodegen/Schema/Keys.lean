import SchemaCodegen.Schema.Basic

/-!
# Keys, uniqueness and references of a table

What the constraints of a table say about one of its columns or indexes, as far as generated code
depends on it.
-/

namespace SchemaCodegen

/-- Whether the constraint has exactly the one column. -/
def Constraint.isOn (constraint : Constraint) (column : String) : Bool :=
  constraint.columns == [column]

namespace Table

/-- Whether the column belongs to the primary key. -/
def isPrimaryColumn (table : Table) (column : String) : Bool :=
  table.primaryKeyColumns.contains column

/-- Whether a uniqueness constraint covers exactly this column. -/
def isUniqueColumn (table : Table) (column : String) : Bool :=
  table.uniques.any (·.isOn column)

/-- The foreign key that is stated on the column itself: the only one that has exactly this
column. -/
def columnForeignKey? (table : Table) (column : String) : Option Constraint :=
  match table.foreignKeys.filter (·.isOn column) with
  | [constraint] => some constraint
  | _ => none

/-- Whether the foreign key is stated on its column: it has one column, and no other foreign key has
exactly that column. -/
def isColumnLevel (table : Table) (constraint : Constraint) : Bool :=
  match constraint.columns with
  | [column] => (table.columnForeignKey? column).isSome
  | _ => false

/-- Whether the index is the one that the database made for a primary key or a uniqueness constraint
on the same columns. -/
def isBacked (table : Table) (index : Index) : Bool :=
  index.unique && table.constraints.any fun constraint =>
    (constraint.isUnique || constraint.isPrimaryKey) && constraint.columns == index.columns

/-- The indexes that generated code has to declare, in order. -/
def explicitIndexes (table : Table) : List Index :=
  table.indexes.filter fun index => !table.isBacked index

/-- The schema of the table where it has to be spelled out. -/
def explicitSchema? (table : Table) (dialect : Dialect) : Option String :=
  if table.schema == dialect.defaultSchema then none else some table.schema

end Table

end SchemaCodegen
