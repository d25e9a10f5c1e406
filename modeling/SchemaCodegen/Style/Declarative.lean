import SchemaCodegen.Code.Constraints
import SchemaCodegen.Code.Module
import SchemaCodegen.ColumnType
import SchemaCodegen.Naming.Names
import SchemaCodegen.Schema.Keys

/-!
# Declarative classes

One class for each table, in the order of the schema. A column becomes an annotated attribute; a
foreign key of one column is stated on that column, unless two foreign keys share it; every other
constraint and the indexes are stated on the table.
-/

namespace SchemaCodegen.Declarative

open SchemaCodegen.Code SchemaCodegen.Code.Vocabulary SchemaCodegen.Naming

/-! ## Reserved names -/

/-- Names of the module that a class must not take. -/
def reservedClassNames : List String :=
  ColumnType.symbolNames ++
    ["Base", "DeclarativeBase", "Mapped", "mapped_column", "ForeignKey", "ForeignKeyConstraint",
      "UniqueConstraint", "Index", "Optional", "Any", "text"]

/-- Names that an attribute must not take: those of classes, and the modules that annotations
mention. -/
def reservedAttributeNames : List String :=
  reservedClassNames ++ ["datetime", "decimal", "uuid"]

/-! ## Attributes -/

/-- The annotation of a column's values: optional where the column admits NULL and does not belong
to the primary key. -/
def columnHint (table : Table) (column : Column) (type : ColumnType) : Expr :=
  if column.nullable && !table.isPrimaryColumn column.name then
    .index (typing "Optional") type.hint
  else type.hint

/-- The name of the column, where the attribute has another one. -/
def nameArgument (column : Column) (name : String) : List Expr :=
  if name == column.name then [] else [.literal column.name]

/-- The foreign key that is stated on the column. -/
def referenceArgument (table : Table) (column : Column) (dialect : Dialect) (options : Options) :
    List Expr :=
  if options.noConstraints then []
  else
    (((table.columnForeignKey? column.name).bind Constraint.target?).map
      fun target => columnReference target dialect).toList

/-- The mark of a column of the primary key. -/
def primaryKeyArgument (table : Table) (column : Column) : List Expr :=
  if table.isPrimaryColumn column.name then [flag "primary_key"] else []

/-- The mark of a column that is unique by itself. -/
def uniqueArgument (table : Table) (column : Column) (options : Options) : List Expr :=
  if !options.noConstraints && table.isUniqueColumn column.name then [flag "unique"] else []

/-- The arguments of a column. -/
def columnArguments (table : Table) (column : Column) (name : String) (dialect : Dialect)
    (options : Options) : List Expr :=
  nameArgument column name ++ [(ColumnType.ofColumn column dialect).typeExpr] ++
    referenceArgument table column dialect options ++ primaryKeyArgument table column ++
    uniqueArgument table column options ++ defaultArgument column dialect ++
    commentArguments column.comment options

/-- The attribute of a column under a given name. -/
def attributeOf (table : Table) (dialect : Dialect) (options : Options) (column : Column)
    (name : String) : Attribute :=
  { name := name
    hint :=
      .index (orm "Mapped")
        (columnHint table column (ColumnType.ofColumn column dialect))
    value :=
      .call (orm "mapped_column") (columnArguments table column name dialect options) }

/-- The names of a table's attributes, one for each column. -/
def attributeNames (table : Table) : List String :=
  (claimAll reservedAttributeNames (table.columns.map fun c => attributeName c.name)).1

/-- The attributes of a table. -/
def attributesOf (table : Table) (dialect : Dialect) (options : Options) : List Attribute :=
  List.zipWith (attributeOf table dialect options) table.columns (attributeNames table)

/-! ## What is stated of the table -/

/-- The foreign keys that are not stated on a column, and the uniqueness constraints of several
columns. -/
def constraintArguments (table : Table) (dialect : Dialect) (options : Options) : List Expr :=
  if options.noConstraints then []
  else
    (table.foreignKeys.filter fun constraint => !table.isColumnLevel constraint).filterMap
        (foreignKeyConstraint? dialect) ++
      (table.uniques.filter fun constraint => 1 < constraint.columns.length).map uniqueConstraint

/-- The indexes. -/
def indexArguments (table : Table) (options : Options) : List Expr :=
  if options.noIndexes then [] else table.explicitIndexes.map indexDeclaration

/-- The comment and the schema of the table. -/
def tableKeywords (table : Table) (dialect : Dialect) (options : Options) :
    List (String × String) :=
  (if options.noComments then [] else (table.comment.map fun c => ("comment", c)).toList) ++
    ((table.explicitSchema? dialect).map fun s => ("schema", s)).toList

/-- The comment and the schema as one argument, if there is either. -/
def keywordArguments (table : Table) (dialect : Dialect) (options : Options) : List Expr :=
  match tableKeywords table dialect options with
  | [] => []
  | keywords => [.dict keywords]

/-- What is stated of the table as a whole, if anything. -/
def tableArgs (table : Table) (dialect : Dialect) (options : Options) : Option Expr :=
  match constraintArguments table dialect options ++ indexArguments table options ++
    keywordArguments table dialect options with
  | [] => none
  | args => some (.tuple args)

/-! ## Classes and modules -/

/-- The class of a table under a given name. -/
def classOf (dialect : Dialect) (options : Options) (table : Table) (name : String) : ClassBlock :=
  { name := name
    table := table.name
    tableArgs := tableArgs table dialect options
    attributes := attributesOf table dialect options }

/-- The class names of the tables, in order. -/
def classNames (schema : Schema) (options : Options) : List String :=
  (claimAll reservedClassNames
    (schema.tables.map fun t => className t.name options.useSingular)).1

/-- The classes of a schema. -/
def classes (schema : Schema) (options : Options) : List ClassBlock :=
  List.zipWith (classOf schema.dialect options) schema.tables (classNames schema options)

/-- The symbols that every module of this style imports. -/
def fixedSymbols : List Symbol :=
  [orm "DeclarativeBase", orm "Mapped", orm "mapped_column"]

/-- The module of a schema. -/
def toModule (schema : Schema) (options : Options) : Code.Module :=
  let blocks := classes schema options
  { imports := Imports.ofSymbols (fixedSymbols ++ blocks.flatMap ClassBlock.symbols)
    preamble := ["class Base(DeclarativeBase):", indent ++ "pass"]
    blocks := blocks.map ClassBlock.lines }

/-- The classes whose tables have no primary key, each by its name and the name of its table. -/
def classesWithoutKey (schema : Schema) (options : Options) : List (String × String) :=
  (schema.tables.zip (classNames schema options)).filterMap fun pair =>
    if pair.1.primaryKeyColumns.isEmpty then some (pair.2, pair.1.qualifiedName) else none

end SchemaCodegen.Declarative
