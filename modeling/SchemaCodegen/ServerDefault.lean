import SchemaCodegen.Code.Expression
import SchemaCodegen.Schema.Basic
import SchemaCodegen.ServerDefault.Parentheses
import SchemaCodegen.ServerDefault.Typecast
import SchemaCodegen.Text.Case

/-!
# Server defaults

The default expression of a column, as the catalogue gives it, becomes `text('...')` in generated
code after the noise that its dialect adds is removed. A default that only advances a sequence is
left out, since the database makes those values itself, and so is the default of an identity column.
-/

namespace SchemaCodegen.ServerDefault

open SchemaCodegen.Code SchemaCodegen.Text

/-- The expression without what its dialect adds to it: casts at the end for PostgreSQL,
parentheses around it for SQL Server. -/
def clean (expression : String) : Dialect → String
  | .postgresql => stripCasts expression
  | .mssql => stripParens expression

/-- How an expression begins, in small letters, that advances a sequence. -/
def sequenceStart : Dialect → String
  | .postgresql => "nextval("
  | .mssql => "next value for "

/-- Whether the expression, wrapped or not, begins as one that advances a sequence. -/
def isSequence (expression : String) (dialect : Dialect) : Bool :=
  (sequenceStart dialect).toList.isPrefixOf
    (lowerAfter false (stripParensOf expression.toList))

/-- The function that marks a text as SQL. -/
def textSymbol : Symbol :=
  ⟨.importedFrom "sqlalchemy", "text"⟩

/-- The default as generated code states it. -/
def toExpr (expression : String) (dialect : Dialect) : Expr :=
  .call textSymbol [.literal (clean expression dialect)]

/-- Whether the text has no characters but blanks. -/
def isBlankText (text : String) : Bool :=
  text.toList.all isBlank

/-- The default that generated code states for a column, if any. -/
def forColumn (column : Column) (dialect : Dialect) : Option Expr :=
  match column.default with
  | none => none
  | some expression =>
    if isBlankText expression || column.isIdentity || isSequence expression dialect then none
    else some (toExpr expression dialect)

end SchemaCodegen.ServerDefault
