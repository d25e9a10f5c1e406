/-!
# Relational schemas

The tables of a database as its catalogue describes them. A constraint's kind carries the
referenced side exactly when the constraint is a foreign key, so no constraint can have one without
being one. Everything else that a schema read from a dump satisfies is stated in
`SchemaCodegen.Schema.Invariant`.
-/

namespace SchemaCodegen

/-- The database engines whose catalogues are understood. -/
inductive Dialect where
  /-- PostgreSQL. -/
  | postgresql
  /-- Microsoft SQL Server. -/
  | mssql
  deriving DecidableEq, Repr

namespace Dialect

/-- The name of the dialect in dumps. -/
def name : Dialect → String
  | postgresql => "postgresql"
  | mssql => "mssql"

/-- All dialects. -/
def all : List Dialect :=
  [postgresql, mssql]

/-- The schema whose tables need no qualification. -/
def defaultSchema : Dialect → String
  | postgresql => "public"
  | mssql => "dbo"

end Dialect

/-- What a table is. -/
inductive TableKind where
  /-- A base table. -/
  | table
  /-- A view. -/
  | view
  deriving DecidableEq, Repr

namespace TableKind

/-- The name of the kind in dumps. -/
def name : TableKind → String
  | table => "BASE TABLE"
  | view => "VIEW"

/-- All kinds. -/
def all : List TableKind :=
  [table, view]

end TableKind

/-- The sequence behind an identity column. -/
structure Identity where
  /-- The first value. -/
  start : Int := 1
  /-- The distance between values. -/
  increment : Int := 1
  /-- The least value. -/
  minValue : Int := 1
  /-- The greatest value. -/
  maxValue : Int := 2147483647
  /-- How many values are reserved at once. -/
  cache : Int := 1
  /-- Whether the sequence starts again after its last value. -/
  cycle : Bool := false
  deriving DecidableEq, Repr

/-- A column of a table. The underlying type name (`varchar`, `_int4`, `mood`) is what types are
told apart by; the description (`character varying`, `ARRAY`) helps where that is not enough. -/
structure Column where
  /-- The name of the column. -/
  name : String
  /-- Its position in the table, from one on; positions may have gaps. -/
  position : Int
  /-- Whether the column admits NULL. -/
  nullable : Bool := true
  /-- The description of the type in the words of the SQL standard. -/
  dataType : String := ""
  /-- The underlying type name. -/
  typeName : String
  /-- The length of a bounded character or binary type. -/
  length : Option Int := none
  /-- The number of digits of a decimal type. -/
  precision : Option Int := none
  /-- The number of digits after the point of a decimal type. -/
  scale : Option Int := none
  /-- The default expression as the catalogue gives it. -/
  default : Option String := none
  /-- Whether the column is an identity column. -/
  isIdentity : Bool := false
  /-- Whether identity values are generated always or by default. -/
  generation : Option String := none
  /-- The options of the identity sequence. -/
  identity : Option Identity := none
  /-- The comment on the column. -/
  comment : Option String := none
  /-- The labels of an enumeration type or of the elements of an array of one. -/
  labels : Option (List String) := none
  deriving DecidableEq, Repr

/-- The referenced side of a foreign key. -/
structure ForeignKey where
  /-- The schema of the referenced table. -/
  schema : String
  /-- The referenced table. -/
  table : String
  /-- The referenced columns, in the order of the constraint. -/
  columns : List String
  /-- What an update of a referenced row does. -/
  updateRule : String := "NO ACTION"
  /-- What the deletion of a referenced row does. -/
  deleteRule : String := "NO ACTION"
  deriving DecidableEq, Repr

/-- What a constraint demands. -/
inductive ConstraintKind where
  /-- The columns identify a row. -/
  | primaryKey
  /-- No two rows agree on the columns. -/
  | unique
  /-- The columns refer to a row of a table. -/
  | foreignKey (target : ForeignKey)
  /-- A condition on each row. -/
  | check
  deriving DecidableEq, Repr

/-- A named constraint of a table. -/
structure Constraint where
  /-- The name of the constraint. -/
  name : String
  /-- What it demands. -/
  kind : ConstraintKind
  /-- The columns that take part, in order. -/
  columns : List String := []
  deriving DecidableEq, Repr

/-- An index on one or more columns. -/
structure Index where
  /-- The name of the index. -/
  name : String
  /-- Its columns, in order. -/
  columns : List String
  /-- Whether no two rows agree on the columns. -/
  unique : Bool := false
  deriving DecidableEq, Repr

/-- A table or view. -/
structure Table where
  /-- The schema that owns the table. -/
  schema : String := "public"
  /-- The name of the table. -/
  name : String
  /-- Whether it is a base table or a view. -/
  kind : TableKind := .table
  /-- The comment on the table. -/
  comment : Option String := none
  /-- The columns, in order. -/
  columns : List Column := []
  /-- The constraints. -/
  constraints : List Constraint := []
  /-- The indexes. -/
  indexes : List Index := []
  deriving DecidableEq, Repr

/-- The tables of a database, with the dialect they were read from. -/
structure Schema where
  /-- The dialect. -/
  dialect : Dialect := .postgresql
  /-- The tables, in the order in which they were read. -/
  tables : List Table := []
  deriving DecidableEq, Repr

/-! ## Questions about columns and constraints -/

/-- The name of a kind of constraint in dumps. -/
def ConstraintKind.name : ConstraintKind → String
  | primaryKey => "PRIMARY KEY"
  | unique => "UNIQUE"
  | foreignKey _ => "FOREIGN KEY"
  | check => "CHECK"

/-- The names of all kinds of constraints. -/
def ConstraintKind.names : List String :=
  ["PRIMARY KEY", "UNIQUE", "FOREIGN KEY", "CHECK"]

namespace Constraint

/-- The referenced side, if the constraint is a foreign key. -/
def target? (constraint : Constraint) : Option ForeignKey :=
  match constraint.kind with
  | .foreignKey target => some target
  | _ => none

/-- Whether the constraint is a foreign key. -/
def isForeignKey (constraint : Constraint) : Bool :=
  constraint.target?.isSome

/-- Whether the constraint is a uniqueness constraint. -/
def isUnique (constraint : Constraint) : Bool :=
  constraint.kind == .unique

/-- Whether the constraint is a primary key. -/
def isPrimaryKey (constraint : Constraint) : Bool :=
  constraint.kind == .primaryKey

end Constraint

/-! ## Questions about tables -/

namespace Table

/-- The name of the table with its schema in front. -/
def qualifiedName (table : Table) : String :=
  table.schema ++ "." ++ table.name

/-- What tells the tables of a schema apart. -/
def key (table : Table) : String × String :=
  (table.schema, table.name)

/-- Whether the table is a view. -/
def isView (table : Table) : Bool :=
  table.kind == .view

/-- The names of the columns, in order. -/
def columnNames (table : Table) : List String :=
  table.columns.map (·.name)

/-- The first column of the given name. -/
def column? (table : Table) (name : String) : Option Column :=
  table.columns.find? fun column => column.name == name

/-- The foreign keys, in order. -/
def foreignKeys (table : Table) : List Constraint :=
  table.constraints.filter Constraint.isForeignKey

/-- The uniqueness constraints, in order. -/
def uniques (table : Table) : List Constraint :=
  table.constraints.filter Constraint.isUnique

/-- The primary keys, in order. -/
def primaryKeys (table : Table) : List Constraint :=
  table.constraints.filter Constraint.isPrimaryKey

/-- The constraints whose kind has the given name, in order. -/
def constraintsNamed (table : Table) (kind : String) : List Constraint :=
  table.constraints.filter fun constraint => constraint.kind.name == kind

/-- The columns of the first primary key; none if there is no primary key. -/
def primaryKeyColumns (table : Table) : List String :=
  match table.constraints.find? Constraint.isPrimaryKey with
  | some constraint => constraint.columns
  | none => []

end Table

/-- The first table of the given schema and name. -/
def Schema.table? (schema : Schema) (owner name : String) : Option Table :=
  schema.tables.find? fun table => table.schema == owner && table.name == name

end SchemaCodegen
