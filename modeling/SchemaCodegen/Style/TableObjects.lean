import SchemaCodegen.Code.Constraints
import SchemaCodegen.Code.Module
import SchemaCodegen.ColumnType
import SchemaCodegen.Dependency.Order
import SchemaCodegen.Naming.Names
import SchemaCodegen.Schema.Keys

/-!
# Table objects

One assignment for each table, in dependency order. Every constraint is stated on the table, after
the columns.
-/

namespace SchemaCodegen.TableObjects

open SchemaCodegen.Code SchemaCodegen.Code.Vocabulary SchemaCodegen.Naming

/-! ## Columns -/

/-- The mark of a column of the primary key, or else of a column that does not admit NULL. -/
def keyArgument (table : Table) (column : Column) : List Expr :=
  if table.isPrimaryColumn column.name then [flag "primary_key"]
  else if column.nullable then []
  else [.keyword "nullable" (.truth false)]

/-- The arguments of a column. -/
def columnArguments (table : Table) (column : Column) (dialect : Dialect) (options : Options) :
    List Expr :=
  [.literal column.name, (ColumnType.ofColumn column dialect).typeExpr] ++
    (identityDeclaration? column dialect).toList ++ keyArgument table column ++
    defaultArgument column dialect ++ commentArguments column.comment options

/-- A column. -/
def columnItem (table : Table) (dialect : Dialect) (options : Options) (column : Column) : Expr :=
  .call (core "Column") (columnArguments table column dialect options)

/-! ## Tables and modules -/

/-- The constraints: foreign keys, primary keys, uniqueness constraints. -/
def constraintItems (table : Table) (dialect : Dialect) (options : Options) : List Expr :=
  if options.noConstraints then []
  else
    table.foreignKeys.filterMap (foreignKeyConstraint? dialect) ++
      table.primaryKeys.map primaryKeyConstraint ++ table.uniques.map uniqueConstraint

/-- The indexes. -/
def indexItems (table : Table) (options : Options) : List Expr :=
  if options.noIndexes then [] else table.explicitIndexes.map indexDeclaration

/-- The schema, where it has to be spelled out. -/
def schemaItems (table : Table) (dialect : Dialect) : List Expr :=
  ((table.explicitSchema? dialect).map fun s => Expr.keyword "schema" (.literal s)).toList

/-- The arguments of a table after its name. -/
def itemsOf (table : Table) (dialect : Dialect) (options : Options) : List Expr :=
  table.columns.map (columnItem table dialect options) ++
    constraintItems table dialect options ++ indexItems table options ++
    commentArguments table.comment options ++ schemaItems table dialect

/-- The assignment of a table to a variable of a given name. -/
def blockOf (dialect : Dialect) (options : Options) (table : Table) (name : String) :
    TableBlock :=
  { name := name
    table := table.name
    items := itemsOf table dialect options }

/-- The variables of tables, in order. -/
def variableNames (tables : List Table) : List String :=
  (claimAll [] (tables.map fun table => variableName table.name)).1

/-- The assignments of a schema. -/
def blocks (schema : Schema) (options : Options) : List TableBlock :=
  let tables := Dependency.sortTables schema.tables
  List.zipWith (blockOf schema.dialect options) tables (variableNames tables)

/-- The symbols that every module of this style imports. -/
def fixedSymbols : List Symbol :=
  [core "MetaData", core "Table", core "Column"]

/-- The module of a schema. -/
def toModule (schema : Schema) (options : Options) : Code.Module :=
  let assignments := blocks schema options
  { imports := Imports.ofSymbols (fixedSymbols ++ assignments.flatMap TableBlock.symbols)
    preamble := ["metadata = MetaData()"]
    blocks := assignments.map TableBlock.lines }

end SchemaCodegen.TableObjects
