import SchemaCodegen.Schema.Basic

/-!
# Selections of tables

A selection keeps the tables of some schemas, the tables of some names, or all but views. An empty
list of schemas or of names keeps everything.
-/

namespace SchemaCodegen

/-- Which tables are wanted. -/
structure Selection where
  /-- The wanted schemas; all if there are none. -/
  schemas : List String := []
  /-- The wanted table names; all if there are none. -/
  tables : List String := []
  /-- Whether views are left out. -/
  noViews : Bool := false
  deriving DecidableEq, Repr

namespace Selection

/-- Whether the list of wanted names has the name or is empty. -/
def admits (wanted : List String) (name : String) : Bool :=
  wanted.isEmpty || wanted.contains name

/-- Whether the selection keeps a table. -/
def keeps (selection : Selection) (table : Table) : Bool :=
  admits selection.schemas table.schema && admits selection.tables table.name &&
    !(selection.noViews && table.isView)

end Selection

/-- The schema with the selected tables only, in their order. -/
def Schema.select (schema : Schema) (selection : Selection) : Schema :=
  { schema with tables := schema.tables.filter selection.keeps }

namespace Schema

/-- The tables that are left are the ones that are kept. -/
theorem mem_tables_select {schema : Schema} {selection : Selection} {table : Table} :
    table ∈ (schema.select selection).tables ↔
      table ∈ schema.tables ∧ selection.keeps table := by
  simp [select]

/-- Selecting keeps the order. -/
theorem tables_select_sublist (schema : Schema) (selection : Selection) :
    (schema.select selection).tables.Sublist schema.tables :=
  List.filter_sublist

end Schema

end SchemaCodegen
