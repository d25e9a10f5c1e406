import SchemaCodegen.Code.Vocabulary
import SchemaCodegen.Options
import SchemaCodegen.ServerDefault
import SchemaCodegen.Text.Case

/-!
# Constraints, indexes and identities in generated code

The parts of a column or table that look the same in every style of generated code.
-/

namespace SchemaCodegen.Code

open SchemaCodegen.Code.Vocabulary SchemaCodegen.Text

/-! ## References -/

/-- A reference to a column of another table; its schema is left out where it is the default. -/
def referenceText (target : ForeignKey) (column : String) (dialect : Dialect) : String :=
  if target.schema == dialect.defaultSchema then target.table ++ "." ++ column
  else target.schema ++ "." ++ target.table ++ "." ++ column

/-- The references to the columns of a foreign key, in order. -/
def references (target : ForeignKey) (dialect : Dialect) : List Expr :=
  target.columns.map fun column => .literal (referenceText target column dialect)

/-- The keyword of a referential action, unless it is what the database does anyway. -/
def actionArgument (keyword rule : String) : List Expr :=
  let action := upper rule
  if action == "" || action == "NO ACTION" then [] else [.keyword keyword (.literal action)]

/-- The keywords of the actions on deletion and update. -/
def actionArguments (target : ForeignKey) : List Expr :=
  actionArgument "ondelete" target.deleteRule ++ actionArgument "onupdate" target.updateRule

/-- A foreign key of one column, as it is stated on the column. -/
def columnReference (target : ForeignKey) (dialect : Dialect) : Expr :=
  .call (core "ForeignKey") ((references target dialect).take 1 ++ actionArguments target)

/-- A foreign key as it is stated on the table. -/
def foreignKeyConstraint (constraint : Constraint) (target : ForeignKey) (dialect : Dialect) :
    Expr :=
  .call (core "ForeignKeyConstraint")
    ([.list (Expr.literals constraint.columns), .list (references target dialect)] ++
      actionArguments target ++ [named constraint.name])

/-- A foreign key as it is stated on the table; nothing for another constraint. -/
def foreignKeyConstraint? (dialect : Dialect) (constraint : Constraint) : Option Expr :=
  constraint.target?.map fun target => foreignKeyConstraint constraint target dialect

/-! ## Keys and indexes -/

/-- A constraint that lists its columns and its name. -/
def columnsConstraint (kind : String) (constraint : Constraint) : Expr :=
  .call (core kind) (Expr.literals constraint.columns ++ [named constraint.name])

/-- A primary key as it is stated on the table. -/
def primaryKeyConstraint (constraint : Constraint) : Expr :=
  columnsConstraint "PrimaryKeyConstraint" constraint

/-- A uniqueness constraint as it is stated on the table. -/
def uniqueConstraint (constraint : Constraint) : Expr :=
  columnsConstraint "UniqueConstraint" constraint

/-- An index. -/
def indexDeclaration (index : Index) : Expr :=
  .call (core "Index")
    (.literal index.name :: Expr.literals index.columns ++
      if index.unique then [flag "unique"] else [])

/-! ## Identities and comments -/

/-- A keyword argument with a number. -/
def numberArgument (name : String) (value : Int) : Expr :=
  .keyword name (.number value)

/-- The arguments that describe an identity sequence. SQL Server knows the first value and the
distance only. -/
def sequenceArguments (identity : Identity) : Dialect → List Expr
  | .postgresql =>
    [numberArgument "start" identity.start, numberArgument "increment" identity.increment,
      numberArgument "minvalue" identity.minValue, numberArgument "maxvalue" identity.maxValue,
      .keyword "cycle" (.truth identity.cycle), numberArgument "cache" identity.cache]
  | .mssql =>
    [numberArgument "start" identity.start, numberArgument "increment" identity.increment]

/-- Whether identity values are always generated. -/
def isAlwaysGenerated (column : Column) : Bool :=
  match column.generation with
  | some generation => upper generation == "ALWAYS"
  | none => false

/-- The identity of an identity column. -/
def identityDeclaration? (column : Column) (dialect : Dialect) : Option Expr :=
  if column.isIdentity then
    some (.call (core "Identity")
      ((if isAlwaysGenerated column then [flag "always"] else []) ++
        match column.identity with
        | some identity => sequenceArguments identity dialect
        | none => []))
  else none

/-- A comment as an argument. -/
def commentArgument (comment : String) : Expr :=
  .keyword "comment" (.literal comment)

/-! ## Defaults and comments -/

/-- The default that the database computes. -/
def defaultArgument (column : Column) (dialect : Dialect) : List Expr :=
  ((ServerDefault.forColumn column dialect).map (Expr.keyword "server_default")).toList

/-- A comment, where there is one and comments are wanted. -/
def commentArguments (comment : Option String) (options : Options) : List Expr :=
  if options.noComments then [] else (comment.map commentArgument).toList

end SchemaCodegen.Code
