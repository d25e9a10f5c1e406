import SchemaCodegen.Schema.Basic
import SchemaCodegen.Text.Lines
import SchemaCodegen.Text.Listing

/-!
# Short descriptions

One-line descriptions of the records of a schema, for people who look at a schema in parts.
-/

namespace SchemaCodegen

open SchemaCodegen.Text

variable [Holding]

/-- A column by its name, type and nullability. -/
def Column.describe (column : Column) : String :=
  "<Column " ++ column.name ++ " " ++ column.typeName ++
    (if column.nullable then " NULL>" else " NOT NULL>")

/-- The referenced side of a foreign key by its table and columns. -/
def ForeignKey.describe (target : ForeignKey) : String :=
  "<FK → " ++ target.schema ++ "." ++ target.table ++ "(" ++ commaSeparated target.columns ++ ")>"

/-- A constraint by its name, kind and columns. -/
def Constraint.describe (constraint : Constraint) : String :=
  "<Constraint " ++ constraint.name ++ " " ++ constraint.kind.name ++ " " ++
    showTexts constraint.columns ++ ">"

/-- A table by its name and the numbers of its parts. -/
def Table.describe (table : Table) : String :=
  "<Table " ++ table.qualifiedName ++ " (" ++ toString table.columns.length ++ " cols, " ++
    toString table.constraints.length ++ " constraints, " ++ toString table.indexes.length ++
    " indexes)>"

/-- A schema by its dialect and the number of its tables. -/
def Schema.describe (schema : Schema) : String :=
  "<IntrospectedSchema " ++ schema.dialect.name ++ " " ++ toString schema.tables.length ++
    " tables>"

end SchemaCodegen
