import SchemaCodegen.Document.Listing
import SchemaCodegen.Schema.Basic
import SchemaCodegen.Schema.Scalar

/-!
# Reading a schema from a document

Each kind of record is a mapping with known keys. Its fields are read in a fixed order, keys that
name no field are faults after those of the fields, and the rules that tie fields together are
checked last, when there are no other faults; the first broken rule counts.
-/

namespace SchemaCodegen.Schema

open SchemaCodegen.Text

variable [Holding]

/-- The entries of a mapping. -/
abbrev Entries := List (Document × Document)

/-! ## Fields -/

/-- A field that must be there. -/
def required {α : Type} (entries : Entries) (name : String) (read : Document → Checked α) :
    Checked α :=
  match Document.entry? entries name with
  | some document => (read document).under (.key name)
  | none => (Checked.fail .missing).under (.key name)

/-- A field that has a value of its own when it is absent. -/
def optional {α : Type} (entries : Entries) (name : String) (absent : α)
    (read : Document → Checked α) : Checked α :=
  match Document.entry? entries name with
  | some document => (read document).under (.key name)
  | none => .ok absent

/-- A field that may be absent or null. -/
def nullable {α : Type} (entries : Entries) (name : String) (read : Document → Checked α) :
    Checked (Option α) :=
  optional entries name none (readNullable read)

/-- Whether a whole number is a position: it fits into a signed word of 64 bits. -/
def isPosition (n : Int) : Bool :=
  fitsWord n || n == -(wordBound : Int)

/-- A whole number as a step that is no position; too long a number is not written out. -/
def writtenNumber (n : Int) : String :=
  if isLongNumber n then "<unprintable int object>" else toString n

/-- The step to a key. -/
def stepOfKey (key : Document) : Step :=
  match key with
  | .text name => .key name
  | .int n => if isPosition n then .index n else .key (writtenNumber n)
  | .truth value => .index (if value then 1 else 0)
  | other => .key other.listing

/-- The fault of a key, unless it is among the known names. -/
def keyFault (known : List String) (entry : Document × Document) : Option Fault :=
  match entry.1 with
  | .text name => if known.contains name then none else some ⟨[.key name], .extra⟩
  | .bytes bytes =>
    match Utf8.decode bytes with
    | .ok _ => some ⟨[stepOfKey entry.1], .extra⟩
    | .error _ => some ⟨[stepOfKey entry.1], .keyNotText⟩
  | key => some ⟨[stepOfKey key], .keyNotText⟩

/-- Whether a key is a text with half a pair by itself. -/
def isBrokenKey (key : Document) : Bool :=
  match key with
  | .text name => hasLoneHalf name
  | _ => false

/-- The faults of the keys that name no field. -/
def extraFaults (known : List String) (entries : Entries) : List Fault :=
  entries.filterMap (keyFault known)

/-- A record: its fields, read from the entries of a mapping. Which keys are known may depend on
the entries. A key with half a pair by itself keeps the record from being looked at. -/
def readRecord {α : Type} (kind : String) (known : Entries → List String)
    (fields : Entries → Checked α) : Document → Checked α
  | .mapping entries =>
    if entries.any fun entry => isBrokenKey entry.1 then .fail .notUnicode
    else (fields entries).withFaults (extraFaults (known entries) entries)
  | _ => .fail (.notRecord kind)

/-! ## Identity options and columns -/

/-- The fields of identity options. -/
def identityFields (_ : Entries) : List String :=
  ["start", "increment", "min_value", "max_value", "cache", "cycle"]

/-- Reads identity options. -/
def readIdentity : Document → Checked Identity :=
  readRecord "IdentityInfo" identityFields fun entries =>
    (Checked.ok Identity.mk)
      |>.ap (optional entries "start" 1 readInt)
      |>.ap (optional entries "increment" 1 readInt)
      |>.ap (optional entries "min_value" 1 readInt)
      |>.ap (optional entries "max_value" 2147483647 readInt)
      |>.ap (optional entries "cache" 1 (readIntFrom 1))
      |>.ap (optional entries "cycle" false readTruth)

/-- The fields of a column. -/
def columnFields (_ : Entries) : List String :=
  ["name", "ordinal_position", "is_nullable", "data_type", "udt_name", "character_maximum_length",
    "numeric_precision", "numeric_scale", "column_default", "is_identity", "identity_generation",
    "identity", "comment", "enum_values"]

/-- The rule that a column breaks: only an identity column has identity options. -/
def columnRule (column : Column) : Option BrokenRule :=
  if column.identity.isSome && !column.isIdentity then some (.identityWithoutFlag column.name)
  else none

/-- Reads a column. -/
def readColumn (document : Document) : Checked Column :=
  (readRecord "ColumnInfo" columnFields (fun entries =>
    (Checked.ok Column.mk)
      |>.ap (required entries "name" readName)
      |>.ap (required entries "ordinal_position" (readIntFrom 1))
      |>.ap (optional entries "is_nullable" true readTruth)
      |>.ap (optional entries "data_type" "" readText)
      |>.ap (required entries "udt_name" readName)
      |>.ap (nullable entries "character_maximum_length" readInt)
      |>.ap (nullable entries "numeric_precision" (readIntFrom 0))
      |>.ap (nullable entries "numeric_scale" (readIntFrom 0))
      |>.ap (nullable entries "column_default" readText)
      |>.ap (optional entries "is_identity" false readTruth)
      |>.ap (nullable entries "identity_generation" readText)
      |>.ap (nullable entries "identity" readIdentity)
      |>.ap (nullable entries "comment" readText)
      |>.ap (nullable entries "enum_values" (readList readText))) document).provided columnRule

/-! ## Constraints and indexes -/

/-- The fields of a foreign key's referenced side. -/
def foreignKeyFields (_ : Entries) : List String :=
  ["ref_schema", "ref_table", "ref_columns", "update_rule", "delete_rule"]

/-- Reads the referenced side of a foreign key. -/
def readForeignKey : Document → Checked ForeignKey :=
  readRecord "ForeignKeyInfo" foreignKeyFields fun entries =>
    (Checked.ok ForeignKey.mk)
      |>.ap (required entries "ref_schema" readName)
      |>.ap (required entries "ref_table" readName)
      |>.ap (required entries "ref_columns" (readFilledList readText))
      |>.ap (optional entries "update_rule" "NO ACTION" readText)
      |>.ap (optional entries "delete_rule" "NO ACTION" readText)

/-- A constraint as a document has it: the name of its kind beside the referenced side. -/
structure ConstraintRecord where
  /-- The name of the constraint. -/
  name : String
  /-- The name of its kind. -/
  kind : String
  /-- The columns that take part. -/
  columns : List String
  /-- The referenced side, if there is one. -/
  target : Option ForeignKey
  deriving DecidableEq, Repr

/-- The fields of a constraint. -/
def constraintFields (_ : Entries) : List String :=
  ["name", "constraint_type", "columns", "foreign_key"]

/-- The kind that a name without a referenced side stands for. -/
def plainKind (name : String) : ConstraintKind :=
  if name == "PRIMARY KEY" then .primaryKey else if name == "UNIQUE" then .unique else .check

/-- The constraint that a record stands for: exactly a foreign key has a referenced side, and it
has as many columns there as here. -/
def ConstraintRecord.toConstraint (record : ConstraintRecord) : Checked Constraint :=
  if record.kind == "FOREIGN KEY" then
    match record.target with
    | none => .fail (.broken (.foreignKeyWithoutTarget record.name))
    | some target =>
      if target.columns.length == record.columns.length then
        .ok ⟨record.name, .foreignKey target, record.columns⟩
      else
        .fail (.broken
          (.columnCountMismatch record.name record.columns.length target.columns.length))
  else
    match record.target with
    | none => .ok ⟨record.name, plainKind record.kind, record.columns⟩
    | some _ => .fail (.broken (.targetWithoutForeignKey record.name record.kind))

/-- Reads a constraint. -/
def readConstraint (document : Document) : Checked Constraint :=
  (readRecord "ConstraintInfo" constraintFields (fun entries =>
    (Checked.ok ConstraintRecord.mk)
      |>.ap (required entries "name" readName)
      |>.ap (required entries "constraint_type" (readOneOf ConstraintKind.names id))
      |>.ap (optional entries "columns" [] (readList readText))
      |>.ap (nullable entries "foreign_key" readForeignKey)) document).andThen
    ConstraintRecord.toConstraint

/-- The rule that the columns of an index break: none is named twice. -/
def indexColumnsRule (columns : List String) : Option BrokenRule :=
  if columns.Nodup then none else some (.repeatedIndexColumn columns)

/-- The fields of an index. -/
def indexFields (_ : Entries) : List String :=
  ["name", "columns", "is_unique"]

/-- Reads the columns of an index. -/
def readIndexColumns (document : Document) : Checked (List String) :=
  (readFilledList readText document).provided indexColumnsRule

/-- Reads an index. -/
def readIndex : Document → Checked Index :=
  readRecord "IndexInfo" indexFields fun entries =>
    (Checked.ok Index.mk)
      |>.ap (required entries "name" readName)
      |>.ap (required entries "columns" readIndexColumns)
      |>.ap (optional entries "is_unique" false readTruth)

/-! ## Tables and schemas -/

/-- The fields of a table. The owning schema may be given under the key `schema_name` when there is
no key `schema`. -/
def tableFields (entries : Entries) : List String :=
  let owner := if (Document.entry? entries "schema").isSome then "schema" else "schema_name"
  [owner, "name", "table_type", "comment", "columns", "constraints", "indexes"]

/-- Reads the name of the owning schema; faults are placed at the key `schema` in any case. -/
def readOwner (entries : Entries) : Checked String :=
  match Document.entry? entries "schema" with
  | some document => (readText document).under (.key "schema")
  | none =>
    match Document.entry? entries "schema_name" with
    | some document => (readText document).under (.key "schema")
    | none => .ok "public"

/-- The first column whose position does not come after the one before it, told by the rule. -/
def positionRule (table : String) : Int → List Column → Option BrokenRule
  | _, [] => none
  | previous, column :: columns =>
    if column.position ≤ previous then
      some (.positionNotIncreasing table column.name column.position previous)
    else positionRule table column.position columns

/-- The first constraint that names columns which the table does not have, told by the rule. -/
def constraintColumnsRule (table : String) (known : List String) :
    List Constraint → Option BrokenRule
  | [] => none
  | constraint :: constraints =>
    let missing := constraint.columns.filter fun column => !known.contains column
    if missing.isEmpty then constraintColumnsRule table known constraints
    else some (.unknownConstraintColumns constraint.name table missing)

/-- The rule that a table breaks: positions increase, and constraints name columns of the table. -/
def tableRule (table : Table) : Option BrokenRule :=
  match positionRule table.name 0 table.columns with
  | some broken => some broken
  | none => constraintColumnsRule table.name table.columnNames table.constraints

/-- Reads a table. -/
def readTable (document : Document) : Checked Table :=
  (readRecord "TableInfo" tableFields (fun entries =>
    (Checked.ok Table.mk)
      |>.ap (readOwner entries)
      |>.ap (required entries "name" readName)
      |>.ap (optional entries "table_type" .table (readOneOf TableKind.all TableKind.name))
      |>.ap (nullable entries "comment" readText)
      |>.ap (optional entries "columns" [] (readList readColumn))
      |>.ap (optional entries "constraints" [] (readList readConstraint))
      |>.ap (optional entries "indexes" [] (readList readIndex))) document).provided tableRule

/-- The fields of a schema. -/
def schemaFields (_ : Entries) : List String :=
  ["dialect", "tables"]

/-- The first table whose schema and name an earlier table has, told by the rule. -/
def repeatedTableRule : List (String × String) → List Table → Option BrokenRule
  | _, [] => none
  | seen, table :: tables =>
    if seen.contains table.key then some (.repeatedTable table.qualifiedName)
    else repeatedTableRule (table.key :: seen) tables

/-- Reads a dialect. -/
def readDialect : Document → Checked Dialect :=
  readOneOf Dialect.all Dialect.name

/-- Reads a schema. -/
def read (document : Document) : Checked Schema :=
  (readRecord "IntrospectedSchema" schemaFields (fun entries =>
    (Checked.ok Schema.mk)
      |>.ap (optional entries "dialect" .postgresql readDialect)
      |>.ap (optional entries "tables" [] (readList readTable))) document).provided
    fun schema => repeatedTableRule [] schema.tables

end SchemaCodegen.Schema
