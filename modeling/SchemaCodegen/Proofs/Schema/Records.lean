import Mathlib.Data.Set.List
import SchemaCodegen.Proofs.Schema.RoundTrip

/-!
# Proofs: schemas as documents have them

In a document a constraint is the name of a kind beside a referenced side that may or may not be
there, so a document can say more than a schema can hold. Its tables are kept here with such
constraints, and the rules of a schema are stated of them. What keeps the rules is what comes from a
schema.
-/

namespace SchemaCodegen

namespace Schema

/-- A table as a document has it. -/
structure TableRecord where
  schema : String
  name : String
  kind : TableKind
  comment : Option String
  columns : List Column
  constraints : List ConstraintRecord
  indexes : List Index

/-- A schema as a document has it. -/
structure SchemaRecord where
  dialect : Dialect
  tables : List TableRecord

/-! ## The rules -/

/-- A referenced side is there exactly for foreign keys, with a column there for every column here,
and at least one. -/
structure ConstraintRecord.KeepsRules (record : ConstraintRecord) : Prop where
  /-- Foreign keys refer to a table, and nothing else does. -/
  target_isSome_iff : record.target.isSome = true ↔ record.kind = "FOREIGN KEY"
  /-- There is a referenced column. -/
  columns_ne : ∀ target ∈ record.target, target.columns ≠ []
  /-- Both sides have the same number of columns. -/
  length_eq : ∀ target ∈ record.target, target.columns.length = record.columns.length

/-- Identity options belong to identity columns, positions count from one and increase, constraints
name columns of the table, and indexes name columns, each once. -/
structure TableRecord.KeepsRules (record : TableRecord) : Prop where
  /-- Identity options belong to identity columns. -/
  identity : ∀ column ∈ record.columns, column.identity.isSome → column.isIdentity
  /-- Positions count from one. -/
  one_le_position : ∀ column ∈ record.columns, 1 ≤ column.position
  /-- Positions increase from column to column. -/
  positions : (record.columns.map (·.position)).Pairwise (· < ·)
  /-- The constraints keep their rules. -/
  constraints : ∀ constraint ∈ record.constraints, constraint.KeepsRules
  /-- Constraints name columns of the table. -/
  constraint_columns : ∀ constraint ∈ record.constraints, ∀ name ∈ constraint.columns,
    name ∈ record.columns.map (·.name)
  /-- An index has a column. -/
  index_columns_ne : ∀ index ∈ record.indexes, index.columns ≠ []
  /-- An index names no column twice. -/
  index_nodup : ∀ index ∈ record.indexes, index.columns.Nodup

/-- The tables keep their rules and are told apart by schema and name. -/
structure SchemaRecord.KeepsRules (record : SchemaRecord) : Prop where
  /-- The tables keep their rules. -/
  tables : ∀ table ∈ record.tables, table.KeepsRules
  /-- No two tables have the same schema and name. -/
  keys : (record.tables.map fun table => (table.schema, table.name)).Nodup

end Schema

/-! ## Schemas as records -/

/-- The constraint as a document has it. -/
def Constraint.toRecord (constraint : Constraint) : Schema.ConstraintRecord :=
  ⟨constraint.name, constraint.kind.name, constraint.columns, constraint.target?⟩

/-- The table as a document has it. -/
def Table.toRecord (table : Table) : Schema.TableRecord :=
  { schema := table.schema
    name := table.name
    kind := table.kind
    comment := table.comment
    columns := table.columns
    constraints := table.constraints.map Constraint.toRecord
    indexes := table.indexes }

/-- The schema as a document has it. -/
def Schema.toRecord (schema : Schema) : SchemaRecord :=
  { dialect := schema.dialect
    tables := schema.tables.map Table.toRecord }

theorem Constraint.target?_isSome_iff (constraint : Constraint) :
    constraint.target?.isSome = true ↔ constraint.kind.name = "FOREIGN KEY" := by
  rw [target?]
  cases constraint.kind with
  | foreignKey target => exact iff_of_true rfl rfl
  | _ => exact iff_of_false Bool.false_ne_true (by decide)

theorem Constraint.WellFormed.keepsRules {constraint : Constraint} (h : constraint.WellFormed) :
    constraint.toRecord.KeepsRules where
  target_isSome_iff := constraint.target?_isSome_iff
  columns_ne target htarget := (h.target target htarget).columns_ne
  length_eq := h.length_eq

theorem Table.WellFormed.keepsRules {table : Table} (h : table.WellFormed) :
    table.toRecord.KeepsRules where
  identity column hcolumn := (h.columns column hcolumn).isIdentity_of_identity
  one_le_position column hcolumn := (h.columns column hcolumn).one_le_position
  positions := h.positions
  constraints := List.forall_mem_map.2 fun constraint hconstraint =>
    (h.constraints constraint hconstraint).keepsRules
  constraint_columns := List.forall_mem_map.2 h.constraint_columns
  index_columns_ne index hindex := (h.indexes index hindex).columns_ne
  index_nodup index hindex := (h.indexes index hindex).nodup

theorem Schema.WellFormed.keepsRules {schema : Schema} (h : schema.WellFormed) :
    schema.toRecord.KeepsRules where
  tables := List.forall_mem_map.2 fun table htable => (h.tables table htable).keepsRules
  keys := by
    rw [toRecord, List.map_map]
    exact h.keys

namespace Schema

/-! ## Records as schemas -/

theorem name_plainKind {kind : String} (hkind : kind ∈ ConstraintKind.names)
    (hne : kind ≠ "FOREIGN KEY") : (plainKind kind).name = kind := by
  simp only [ConstraintKind.names, List.mem_cons, List.not_mem_nil, or_false] at hkind
  rcases hkind with rfl | rfl | rfl | rfl
  · rfl
  · rfl
  · exact absurd rfl hne
  · rfl

/-- A record of a known kind stands for the constraint that it is the record of, provided that both
sides have the same number of columns. -/
theorem toConstraint_eq_ok_iff {record : ConstraintRecord} {constraint : Constraint}
    (hkind : record.kind ∈ ConstraintKind.names) :
    record.toConstraint = .ok constraint ↔ constraint.toRecord = record ∧
      ∀ target ∈ record.target, target.columns.length = record.columns.length := by
  constructor
  · intro h
    obtain ⟨hname, hcolumns, htarget, hlength⟩ := of_toConstraint h
    refine ⟨?_, hlength⟩
    have hkindName : constraint.kind.name = record.kind := by
      unfold ConstraintRecord.toConstraint at h
      split at h
      · next hforeign =>
        split at h
        · exact absurd h Checked.fail_ne_ok
        · split at h
          · obtain rfl := Checked.ok.inj h
            exact (eq_of_beq hforeign).symm
          · exact absurd h Checked.fail_ne_ok
      · next hplain =>
        split at h
        · obtain rfl := Checked.ok.inj h
          exact name_plainKind hkind (by simpa using hplain)
        · exact absurd h Checked.fail_ne_ok
    rw [Constraint.toRecord, hname, hkindName, hcolumns, htarget]
  · rintro ⟨rfl, hlength⟩
    exact toConstraint_eq_ok hlength

/-- What has a known kind and keeps the rules is the record of a constraint. -/
theorem exists_toRecord_constraint {record : ConstraintRecord}
    (hkind : record.kind ∈ ConstraintKind.names) (h : record.KeepsRules) :
    ∃ constraint : Constraint, constraint.toRecord = record := by
  obtain ⟨name, kind, columns, target⟩ := record
  have hiff : target.isSome = true ↔ kind = "FOREIGN KEY" := h.target_isSome_iff
  cases target with
  | none =>
    have hne : kind ≠ "FOREIGN KEY" := fun hforeign => by cases hiff.2 hforeign
    refine ⟨⟨name, plainKind kind, columns⟩, ?_⟩
    rw [Constraint.toRecord, name_plainKind hkind hne, target?_plainKind]
  | some target =>
    obtain rfl := hiff.1 rfl
    exact ⟨⟨name, .foreignKey target, columns⟩, rfl⟩

theorem exists_toRecord_table {record : TableRecord}
    (hkinds : ∀ constraint ∈ record.constraints, constraint.kind ∈ ConstraintKind.names)
    (h : record.KeepsRules) : ∃ table : Table, table.toRecord = record := by
  have hrange : record.constraints ∈ Set.range (List.map Constraint.toRecord) := by
    rw [Set.range_list_map]
    exact fun constraint hconstraint => exists_toRecord_constraint (hkinds constraint hconstraint)
      (h.constraints constraint hconstraint)
  obtain ⟨constraints, hconstraints⟩ := hrange
  refine ⟨⟨record.schema, record.name, record.kind, record.comment, record.columns, constraints,
    record.indexes⟩, ?_⟩
  rw [Table.toRecord, hconstraints]

/-- A document's schema whose kinds are known and whose rules are kept is the record of a schema. -/
theorem exists_toRecord {record : SchemaRecord}
    (hkinds : ∀ table ∈ record.tables, ∀ constraint ∈ table.constraints,
      constraint.kind ∈ ConstraintKind.names)
    (h : record.KeepsRules) : ∃ schema : Schema, schema.toRecord = record := by
  have hrange : record.tables ∈ Set.range (List.map Table.toRecord) := by
    rw [Set.range_list_map]
    exact fun table htable => exists_toRecord_table (hkinds table htable) (h.tables table htable)
  obtain ⟨tables, htables⟩ := hrange
  refine ⟨⟨record.dialect, tables⟩, ?_⟩
  rw [toRecord, htables]

end Schema

end SchemaCodegen
