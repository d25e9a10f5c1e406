import SchemaCodegen.Document
import SchemaCodegen.Schema.Basic

/-!
# Writing a schema as a document

A schema is written with every field of every record, in the order in which the fields are read.
Reading the document gives the schema again.
-/

namespace SchemaCodegen.Schema

open Document (ofOption record text texts)

/-- Identity options as a document. -/
def identityDocument (identity : Identity) : Document :=
  record [
    ("start", .int identity.start),
    ("increment", .int identity.increment),
    ("min_value", .int identity.minValue),
    ("max_value", .int identity.maxValue),
    ("cache", .int identity.cache),
    ("cycle", .truth identity.cycle)]

/-- A column as a document. -/
def columnDocument (column : Column) : Document :=
  record [
    ("name", text column.name),
    ("ordinal_position", .int column.position),
    ("is_nullable", .truth column.nullable),
    ("data_type", text column.dataType),
    ("udt_name", text column.typeName),
    ("character_maximum_length", ofOption .int column.length),
    ("numeric_precision", ofOption .int column.precision),
    ("numeric_scale", ofOption .int column.scale),
    ("column_default", ofOption text column.default),
    ("is_identity", .truth column.isIdentity),
    ("identity_generation", ofOption text column.generation),
    ("identity", ofOption identityDocument column.identity),
    ("comment", ofOption text column.comment),
    ("enum_values", ofOption texts column.labels)]

/-- The referenced side of a foreign key as a document. -/
def foreignKeyDocument (target : ForeignKey) : Document :=
  record [
    ("ref_schema", text target.schema),
    ("ref_table", text target.table),
    ("ref_columns", texts target.columns),
    ("update_rule", text target.updateRule),
    ("delete_rule", text target.deleteRule)]

/-- A constraint as a document. -/
def constraintDocument (constraint : Constraint) : Document :=
  record [
    ("name", text constraint.name),
    ("constraint_type", text constraint.kind.name),
    ("columns", texts constraint.columns),
    ("foreign_key", ofOption foreignKeyDocument constraint.target?)]

/-- An index as a document. -/
def indexDocument (index : Index) : Document :=
  record [
    ("name", text index.name),
    ("columns", texts index.columns),
    ("is_unique", .truth index.unique)]

/-- A table as a document. -/
def tableDocument (table : Table) : Document :=
  record [
    ("schema", text table.schema),
    ("name", text table.name),
    ("table_type", text table.kind.name),
    ("comment", ofOption text table.comment),
    ("columns", .list (table.columns.map columnDocument)),
    ("constraints", .list (table.constraints.map constraintDocument)),
    ("indexes", .list (table.indexes.map indexDocument))]

/-- A schema as a document. -/
def toDocument (schema : Schema) : Document :=
  record [
    ("dialect", text schema.dialect.name),
    ("tables", .list (schema.tables.map tableDocument))]

end SchemaCodegen.Schema
