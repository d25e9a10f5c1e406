import SchemaCodegen.Proofs.Schema.Fields
import SchemaCodegen.Proofs.Schema.Records

/-!
# Proofs: which documents are accepted

A schema is read from a document exactly when the document gives it, field by field and with no
other keys, and the rules that tie fields together are kept. Selecting tables keeps the rules and
checks nothing again, so all that is ever reached from a document keeps them.
-/

namespace SchemaCodegen.Schema

open SchemaCodegen.Text

/-! ## What documents give -/

/-- The entries give identity options. -/
structure GivesIdentity [Holding] (entries : Entries) (identity : Identity) : Prop where
  start : HasOr entries "start" 1 (Reads readInt) identity.start
  increment : HasOr entries "increment" 1 (Reads readInt) identity.increment
  minValue : HasOr entries "min_value" 1 (Reads readInt) identity.minValue
  maxValue : HasOr entries "max_value" 2147483647 (Reads readInt) identity.maxValue
  cache : HasOr entries "cache" 1 (Reads (readIntFrom 1)) identity.cache
  cycle : HasOr entries "cycle" false (Reads readTruth) identity.cycle

/-- The entries give a column. -/
structure GivesColumn [Holding] (entries : Entries) (column : Column) : Prop where
  name : Has entries "name" (Reads readName) column.name
  position : Has entries "ordinal_position" (Reads (readIntFrom 1)) column.position
  nullable : HasOr entries "is_nullable" true (Reads readTruth) column.nullable
  dataType : HasOr entries "data_type" "" (Reads readText) column.dataType
  typeName : Has entries "udt_name" (Reads readName) column.typeName
  length : HasOr entries "character_maximum_length" none (GivesOption (Reads readInt)) column.length
  precision :
    HasOr entries "numeric_precision" none (GivesOption (Reads (readIntFrom 0))) column.precision
  scale : HasOr entries "numeric_scale" none (GivesOption (Reads (readIntFrom 0))) column.scale
  default : HasOr entries "column_default" none (GivesOption (Reads readText)) column.default
  isIdentity : HasOr entries "is_identity" false (Reads readTruth) column.isIdentity
  generation :
    HasOr entries "identity_generation" none (GivesOption (Reads readText)) column.generation
  identity : HasOr entries "identity" none
    (GivesOption (GivesRecord identityFields GivesIdentity)) column.identity
  comment : HasOr entries "comment" none (GivesOption (Reads readText)) column.comment
  labels :
    HasOr entries "enum_values" none (GivesOption (Reads (readList readText))) column.labels

/-- The entries give the referenced side of a foreign key. -/
structure GivesForeignKey [Holding] (entries : Entries) (target : ForeignKey) : Prop where
  schema : Has entries "ref_schema" (Reads readName) target.schema
  table : Has entries "ref_table" (Reads readName) target.table
  columns : Has entries "ref_columns" (Reads (readFilledList readText)) target.columns
  updateRule : HasOr entries "update_rule" "NO ACTION" (Reads readText) target.updateRule
  deleteRule : HasOr entries "delete_rule" "NO ACTION" (Reads readText) target.deleteRule

/-- The entries give a constraint. -/
structure GivesConstraint [Holding] (entries : Entries) (record : ConstraintRecord) : Prop where
  name : Has entries "name" (Reads readName) record.name
  kind : Has entries "constraint_type" (Reads (readOneOf ConstraintKind.names id)) record.kind
  columns : HasOr entries "columns" [] (Reads (readList readText)) record.columns
  target : HasOr entries "foreign_key" none
    (GivesOption (GivesRecord foreignKeyFields GivesForeignKey)) record.target

/-- The entries give an index. -/
structure GivesIndex [Holding] (entries : Entries) (index : Index) : Prop where
  name : Has entries "name" (Reads readName) index.name
  columns : Has entries "columns" (Reads (readFilledList readText)) index.columns
  unique : HasOr entries "is_unique" false (Reads readTruth) index.unique

/-- The entries give the owner of a table, under one of its two keys. -/
def GivesOwner (entries : Entries) (owner : String) : Prop :=
  Has entries "schema" (Reads readText) owner ∨
    Document.entry? entries "schema" = none ∧
      HasOr entries "schema_name" "public" (Reads readText) owner

/-- The entries give a table. -/
structure GivesTable [Holding] (entries : Entries) (record : TableRecord) : Prop where
  schema : GivesOwner entries record.schema
  name : Has entries "name" (Reads readName) record.name
  kind : HasOr entries "table_type" .table
    (Reads (readOneOf TableKind.all TableKind.name)) record.kind
  comment : HasOr entries "comment" none (GivesOption (Reads readText)) record.comment
  columns :
    HasOr entries "columns" [] (GivesList (GivesRecord columnFields GivesColumn)) record.columns
  constraints : HasOr entries "constraints" []
    (GivesList (GivesRecord constraintFields GivesConstraint)) record.constraints
  indexes :
    HasOr entries "indexes" [] (GivesList (GivesRecord indexFields GivesIndex)) record.indexes

/-- The entries give a schema. -/
structure GivesSchema [Holding] (entries : Entries) (record : SchemaRecord) : Prop where
  dialect : HasOr entries "dialect" .postgresql (Reads readDialect) record.dialect
  tables :
    HasOr entries "tables" [] (GivesList (GivesRecord tableFields GivesTable)) record.tables

/-! ## Records without rules -/

theorem Checked.eq_ok_iff_exists {α : Type} {x : Checked α} {a : α} :
    x = .ok a ↔ ∃ b, x = .ok b ∧ b = a := by
  rw [exists_eq_right]

/-- Identity options are read from the documents that give them. -/
theorem reads_readIdentity [Holding] :
    Reads readIdentity = GivesRecord identityFields GivesIdentity := by
  funext document identity
  refine propext (readRecord_eq_ok_iff (fun entries => ?_) fun entries identity => ?_)
  · rw [identityFields]
    decide
  rw [Checked.eq_ok_iff_exists]
  simp only [Checked.exists_ap_eq_ok_iff, Checked.ok.injEq, exists_eq_left', optional_eq_ok_iff]
  constructor
  · rintro ⟨_, hcycle, _, hcache, _, hmax, _, hmin, _, hincrement, _, hstart, rfl⟩
    exact ⟨hstart, hincrement, hmin, hmax, hcache, hcycle⟩
  · rintro ⟨hstart, hincrement, hmin, hmax, hcache, hcycle⟩
    exact ⟨_, hcycle, _, hcache, _, hmax, _, hmin, _, hincrement, _, hstart, rfl⟩

/-- The referenced side of a foreign key is read from the documents that give it. -/
theorem reads_readForeignKey [Holding] :
    Reads readForeignKey = GivesRecord foreignKeyFields GivesForeignKey := by
  funext document target
  refine propext (readRecord_eq_ok_iff (fun entries => ?_) fun entries target => ?_)
  · rw [foreignKeyFields]
    decide
  rw [Checked.eq_ok_iff_exists]
  simp only [Checked.exists_ap_eq_ok_iff, Checked.ok.injEq, exists_eq_left', optional_eq_ok_iff,
    required_eq_ok_iff]
  constructor
  · rintro ⟨_, hdelete, _, hupdate, _, hcolumns, _, htable, _, hschema, rfl⟩
    exact ⟨hschema, htable, hcolumns, hupdate, hdelete⟩
  · rintro ⟨hschema, htable, hcolumns, hupdate, hdelete⟩
    exact ⟨_, hdelete, _, hupdate, _, hcolumns, _, htable, _, hschema, rfl⟩

/-! ## Records with rules -/

/-- A column is read from the documents that give it, if it is an identity column or has no
identity options. -/
theorem reads_readColumn [Holding] : Reads readColumn = fun document column =>
    GivesRecord columnFields GivesColumn document column ∧
      (column.identity.isSome → column.isIdentity) := by
  funext document column
  rw [Reads, readColumn, Checked.provided_eq_ok_iff, columnRule_eq_none_iff]
  refine propext (and_congr_left' ?_)
  refine readRecord_eq_ok_iff (fun entries => ?_) fun entries column => ?_
  · rw [columnFields]
    decide
  rw [Checked.eq_ok_iff_exists]
  simp only [Checked.exists_ap_eq_ok_iff, Checked.ok.injEq, exists_eq_left', optional_eq_ok_iff,
    required_eq_ok_iff, nullable_eq_ok_iff, reads_readIdentity]
  constructor
  · rintro ⟨_, hlabels, _, hcomment, _, hidentity, _, hgeneration, _, hisIdentity, _, hdefault, _,
      hscale, _, hprecision, _, hlength, _, htypeName, _, hdataType, _, hnullable, _, hposition, _,
      hname, rfl⟩
    exact ⟨hname, hposition, hnullable, hdataType, htypeName, hlength, hprecision, hscale,
      hdefault, hisIdentity, hgeneration, hidentity, hcomment, hlabels⟩
  · rintro ⟨hname, hposition, hnullable, hdataType, htypeName, hlength, hprecision, hscale,
      hdefault, hisIdentity, hgeneration, hidentity, hcomment, hlabels⟩
    exact ⟨_, hlabels, _, hcomment, _, hidentity, _, hgeneration, _, hisIdentity, _, hdefault, _,
      hscale, _, hprecision, _, hlength, _, htypeName, _, hdataType, _, hnullable, _, hposition, _,
      hname, rfl⟩

/-- One of several names, read as itself, is among them. -/
theorem mem_of_reads_readOneOf [Holding] {names : List String} {document : Document} {name : String}
    (h : Reads (readOneOf names id) document name) : name ∈ names := by
  unfold Reads readOneOf at h
  split at h
  · obtain ⟨text, _, hfound⟩ := Checked.andThen_eq_ok_iff.1 h
    unfold findNamed at hfound
    split at hfound
    · next hfind =>
      obtain rfl := Checked.ok.inj hfound
      exact List.mem_of_find?_eq_some hfind
    · exact absurd hfound Checked.fail_ne_ok
  · exact absurd h Checked.fail_ne_ok

theorem ne_nil_of_has {entries : Entries} {name : String} {values : List String}
    (h : Has entries name (Reads (readFilledList readText)) values) : values ≠ [] := by
  obtain ⟨document, _, hread⟩ := h
  exact ne_nil_of_readFilledList hread

theorem GivesConstraint.kind_mem [Holding] {entries : Entries} {record : ConstraintRecord}
    (h : GivesConstraint entries record) : record.kind ∈ ConstraintKind.names := by
  obtain ⟨document, _, hkind⟩ := h.kind
  exact mem_of_reads_readOneOf hkind

theorem GivesConstraint.columns_ne [Holding] {entries : Entries} {record : ConstraintRecord}
    (h : GivesConstraint entries record) : ∀ target ∈ record.target, target.columns ≠ [] := by
  intro target htarget
  rcases h.target with ⟨_, _, ⟨_, hnone⟩ | ⟨_, other, hsome, _, _, _, hgives⟩⟩ | ⟨_, hnone⟩
  · rw [hnone] at htarget
    cases htarget
  · rw [hsome] at htarget
    obtain rfl := Option.mem_some.1 htarget
    exact ne_nil_of_has hgives.columns
  · rw [hnone] at htarget
    cases htarget

/-- A constraint is read from the documents that give its record, if the record keeps the rules. -/
theorem reads_readConstraint [Holding] : Reads readConstraint = fun document constraint =>
    GivesRecord constraintFields GivesConstraint document constraint.toRecord ∧
      constraint.toRecord.KeepsRules := by
  funext document constraint
  rw [Reads, readConstraint, Checked.andThen_eq_ok_iff]
  refine propext (Iff.trans (b := ∃ record, GivesRecord constraintFields GivesConstraint document
    record ∧ record.toConstraint = .ok constraint) (exists_congr fun record => and_congr_left'
      (readRecord_eq_ok_iff (fun entries => ?_) fun entries record => ?_)) ?_)
  · rw [constraintFields]
    decide
  · rw [Checked.eq_ok_iff_exists]
    simp only [Checked.exists_ap_eq_ok_iff, Checked.ok.injEq, exists_eq_left', optional_eq_ok_iff,
      required_eq_ok_iff, nullable_eq_ok_iff, reads_readForeignKey]
    constructor
    · rintro ⟨_, htarget, _, hcolumns, _, hkind, _, hname, rfl⟩
      exact ⟨hname, hkind, hcolumns, htarget⟩
    · rintro ⟨hname, hkind, hcolumns, htarget⟩
      exact ⟨_, htarget, _, hcolumns, _, hkind, _, hname, rfl⟩
  · constructor
    · rintro ⟨record, ⟨entries, hdocument, hknown, hgives⟩, hconstraint⟩
      obtain ⟨rfl, hlength⟩ := (toConstraint_eq_ok_iff hgives.kind_mem).1 hconstraint
      exact ⟨⟨entries, hdocument, hknown, hgives⟩, constraint.target?_isSome_iff,
        hgives.columns_ne, hlength⟩
    · rintro ⟨⟨entries, hdocument, hknown, hgives⟩, hrules⟩
      exact ⟨_, ⟨entries, hdocument, hknown, hgives⟩,
        (toConstraint_eq_ok_iff hgives.kind_mem).2 ⟨rfl, hrules.length_eq⟩⟩

theorem reads_readIndexColumns : Reads readIndexColumns = fun document columns =>
    Reads (readFilledList readText) document columns ∧ columns.Nodup := by
  funext document columns
  rw [Reads, readIndexColumns, Checked.provided_eq_ok_iff, indexColumnsRule_eq_none_iff, Reads]

/-- An index is read from the documents that give it, if it names no column twice. -/
theorem reads_readIndex [Holding] : Reads readIndex = fun document index =>
    GivesRecord indexFields GivesIndex document index ∧
      index.columns ≠ [] ∧ index.columns.Nodup := by
  funext document index
  refine propext (Iff.trans (readRecord_eq_ok_iff (fun entries => ?_) fun entries index => ?_)
    (givesRecord_and_iff GivesIndex fun index => index.columns ≠ [] ∧ index.columns.Nodup))
  · rw [indexFields]
    decide
  rw [Checked.eq_ok_iff_exists]
  simp only [Checked.exists_ap_eq_ok_iff, Checked.ok.injEq, exists_eq_left', optional_eq_ok_iff,
    required_eq_ok_iff, reads_readIndexColumns, has_and_iff]
  constructor
  · rintro ⟨_, hunique, _, ⟨hcolumns, hnodup⟩, _, hname, rfl⟩
    exact ⟨⟨hname, hcolumns, hunique⟩, ne_nil_of_has hcolumns, hnodup⟩
  · rintro ⟨⟨hname, hcolumns, hunique⟩, _, hnodup⟩
    exact ⟨_, hunique, _, ⟨hcolumns, hnodup⟩, _, hname, rfl⟩

theorem readOwner_eq_ok_iff {entries : Entries} {owner : String} :
    readOwner entries = .ok owner ↔ GivesOwner entries owner := by
  unfold readOwner GivesOwner HasOr Has Reads
  cases Document.entry? entries "schema" with
  | some document => simp [Checked.under_eq_ok_iff]
  | none =>
    cases Document.entry? entries "schema_name" with
    | some document => simp [Checked.under_eq_ok_iff]
    | none => simp [eq_comm]

/-- The rules for the parts of a table are kept. -/
structure TableRecord.PartsKeepRules (record : TableRecord) : Prop where
  columns : ∀ column ∈ record.columns, column.identity.isSome → column.isIdentity
  constraints : ∀ constraint ∈ record.constraints, constraint.KeepsRules
  indexes : ∀ index ∈ record.indexes, index.columns ≠ [] ∧ index.columns.Nodup

/-- Beside the rules for its parts, a table keeps the rules that reading checks of the whole. -/
theorem keepsRules_iff {table : Table} : table.toRecord.KeepsRules ↔
    table.toRecord.PartsKeepRules ∧ tableRule table = none := by
  rw [tableRule_eq_none_iff, List.pairwise_cons, List.forall_mem_map]
  constructor
  · intro h
    exact ⟨⟨h.identity, h.constraints, fun index hindex =>
        ⟨h.index_columns_ne index hindex, h.index_nodup index hindex⟩⟩,
      ⟨h.one_le_position, h.positions⟩, List.forall_mem_map.1 h.constraint_columns⟩
  · rintro ⟨hparts, ⟨hone, hpositions⟩, hknown⟩
    exact
      { identity := hparts.columns
        one_le_position := hone
        positions := hpositions
        constraints := hparts.constraints
        constraint_columns := List.forall_mem_map.2 hknown
        index_columns_ne := fun index hindex => (hparts.indexes index hindex).1
        index_nodup := fun index hindex => (hparts.indexes index hindex).2 }

/-- A table is read from the documents that give its record, if the record keeps the rules. -/
theorem reads_readTable [Holding] : Reads readTable = fun document table =>
    GivesRecord tableFields GivesTable document table.toRecord ∧ table.toRecord.KeepsRules := by
  funext document table
  rw [Reads, readTable, Checked.provided_eq_ok_iff, keepsRules_iff, ← and_assoc]
  refine propext (and_congr_left' (Iff.trans (readRecord_eq_ok_iff (fun entries => ?_)
    fun entries table => ?_) (givesRecord_and_iff (fun entries (table : Table) =>
      GivesTable entries table.toRecord) fun table => table.toRecord.PartsKeepRules)))
  · rw [tableFields]
    split <;> decide
  rw [Checked.eq_ok_iff_exists]
  simp only [Checked.exists_ap_eq_ok_iff, Checked.ok.injEq, exists_eq_left', optional_eq_ok_iff,
    required_eq_ok_iff, nullable_eq_ok_iff, readOwner_eq_ok_iff, reads_readList, reads_readColumn,
    reads_readConstraint, reads_readIndex, hasOr_givesList_and_iff]
  constructor
  · rintro ⟨indexes, ⟨hindexes, hindexRules⟩, constraints, ⟨hconstraints, hconstraintRules⟩,
      columns, ⟨hcolumns, hcolumnRules⟩, _, hcomment, _, hkind, _, hname, _, howner, rfl⟩
    exact ⟨⟨howner, hname, hkind, hcomment, hcolumns, hasOr_givesList_map_iff.2 hconstraints,
      hindexes⟩, hcolumnRules, List.forall_mem_map.2 hconstraintRules, hindexRules⟩
  · rintro ⟨⟨howner, hname, hkind, hcomment, hcolumns, hconstraints, hindexes⟩, hcolumnRules,
      hconstraintRules, hindexRules⟩
    exact ⟨_, ⟨hindexes, hindexRules⟩, _, ⟨hasOr_givesList_map_iff.1 hconstraints,
      List.forall_mem_map.1 hconstraintRules⟩, _, ⟨hcolumns, hcolumnRules⟩, _, hcomment, _, hkind,
      _, hname, _, howner, rfl⟩

/-! ## Schemas -/

/-- A schema is read from the documents that give its record, if the record keeps the rules. -/
theorem reads_read [Holding] : Reads read = fun document schema =>
    GivesRecord schemaFields GivesSchema document schema.toRecord ∧ schema.toRecord.KeepsRules := by
  funext document schema
  have hrules : schema.toRecord.KeepsRules ↔ (∀ table ∈ schema.tables, table.toRecord.KeepsRules) ∧
      repeatedTableRule [] schema.tables = none := by
    have hseen : ∀ table ∈ schema.tables, table.key ∉ [] := fun _ _ => List.not_mem_nil
    rw [repeatedTableRule_eq_none_iff, and_iff_left hseen]
    constructor
    · rintro ⟨htables, hkeys⟩
      rw [toRecord, List.map_map] at hkeys
      exact ⟨List.forall_mem_map.1 htables, hkeys⟩
    · rintro ⟨htables, hkeys⟩
      refine ⟨List.forall_mem_map.2 htables, ?_⟩
      rw [toRecord, List.map_map]
      exact hkeys
  rw [Reads, read, Checked.provided_eq_ok_iff, hrules, ← and_assoc]
  refine propext (and_congr_left' (Iff.trans (readRecord_eq_ok_iff (fun entries => ?_)
    fun entries schema => ?_) (givesRecord_and_iff (fun entries (schema : Schema) =>
      GivesSchema entries schema.toRecord)
        fun schema => ∀ table ∈ schema.tables, table.toRecord.KeepsRules)))
  · rw [schemaFields]
    decide
  rw [Checked.eq_ok_iff_exists]
  simp only [Checked.exists_ap_eq_ok_iff, Checked.ok.injEq, exists_eq_left', optional_eq_ok_iff,
    reads_readList, reads_readTable, hasOr_givesList_and_iff]
  constructor
  · rintro ⟨_, ⟨htables, htableRules⟩, _, hdialect, rfl⟩
    exact ⟨⟨hdialect, hasOr_givesList_map_iff.2 htables⟩, htableRules⟩
  · rintro ⟨⟨hdialect, htables⟩, htableRules⟩
    exact ⟨_, ⟨hasOr_givesList_map_iff.1 htables, htableRules⟩, _, hdialect, rfl⟩

/-- What a document gives has known kinds of constraints only. -/
theorem GivesSchema.kinds_mem [Holding] {entries : Entries} {record : SchemaRecord}
    (h : GivesSchema entries record) :
    ∀ table ∈ record.tables, ∀ constraint ∈ table.constraints,
      constraint.kind ∈ ConstraintKind.names := by
  refine h.tables.forall_mem (p := fun table : TableRecord => ∀ constraint ∈ table.constraints,
    constraint.kind ∈ ConstraintKind.names) ?_
  rintro _ table ⟨_, _, _, htable⟩
  refine htable.constraints.forall_mem (p := fun constraint : ConstraintRecord =>
    constraint.kind ∈ ConstraintKind.names) ?_
  rintro _ constraint ⟨_, _, _, hconstraint⟩
  exact hconstraint.kind_mem

/-- A document is accepted with a record exactly when it gives the record and the record keeps the
rules. -/
theorem exists_read_iff [Holding] {document : Document} {record : SchemaRecord} :
    (∃ schema, read document = .ok schema ∧ schema.toRecord = record) ↔
      GivesRecord schemaFields GivesSchema document record ∧ record.KeepsRules := by
  constructor
  · rintro ⟨schema, hread, rfl⟩
    have hreads : Reads read document schema := hread
    rwa [reads_read] at hreads
  · rintro ⟨⟨entries, hdocument, hknown, hentries⟩, hrules⟩
    obtain ⟨schema, rfl⟩ := exists_toRecord hentries.kinds_mem hrules
    have hreads : Reads read document schema := by
      rw [reads_read]
      exact ⟨⟨entries, hdocument, hknown, hentries⟩, hrules⟩
    exact ⟨schema, hreads, rfl⟩

end SchemaCodegen.Schema

namespace SchemaCodegen

/-- What a selection asks of a table: its schema and its name are among the wanted ones, where some
are wanted, and it is no view, where views are left out. -/
def Selection.Wants (selection : Selection) (table : Table) : Prop :=
  (selection.schemas = [] ∨ table.schema ∈ selection.schemas) ∧
    (selection.tables = [] ∨ table.name ∈ selection.tables) ∧
      (selection.noViews = true → table.kind ≠ .view)

instance (selection : Selection) (table : Table) : Decidable (selection.Wants table) :=
  inferInstanceAs (Decidable (_ ∧ _ ∧ (_ → _)))

theorem Selection.keeps_iff {selection : Selection} {table : Table} :
    selection.keeps table = true ↔ selection.Wants table := by
  simp only [keeps, admits, Table.isView, Wants, Bool.and_eq_true, Bool.or_eq_true,
    List.isEmpty_iff, List.contains_iff_mem, Bool.not_eq_true', Bool.and_eq_false_imp,
    beq_eq_false_iff_ne, and_assoc]

/-- Selection after selection leaves the tables that all of them want. -/
theorem Schema.foldl_select (schema : Schema) (selections : List Selection) :
    selections.foldl Schema.select schema =
      { schema with
        tables := schema.tables.filter fun table =>
          ∀ selection ∈ selections, selection.Wants table } := by
  induction selections generalizing schema with
  | nil => simp
  | cons selection selections ih =>
    have hboth : ∀ table, (decide (∀ other ∈ selections, other.Wants table) &&
        selection.keeps table) = decide (∀ other ∈ selection :: selections, other.Wants table) := by
      intro table
      rw [Bool.eq_iff_iff]
      simp only [Bool.and_eq_true, decide_eq_true_eq, Selection.keeps_iff, List.forall_mem_cons]
      exact and_comm
    rw [List.foldl_cons, ih, select, List.filter_filter]
    simp only [hboth]

/-- A document is accepted exactly when it gives a schema field by field and the schema keeps the
rules that tie fields together; and whatever is selected from it, selection after selection, keeps
the rules and has the tables, in order, that all selections want. -/
theorem acceptance_read [Text.Holding] (document : Document) :
    (∀ record, (∃ schema, Schema.read document = .ok schema ∧ schema.toRecord = record) ↔
        Schema.GivesRecord Schema.schemaFields Schema.GivesSchema document record ∧
          record.KeepsRules) ∧
      ∀ schema, Schema.read document = .ok schema → ∀ selections : List Selection,
        let reached := selections.foldl Schema.select schema
        reached.toRecord.KeepsRules ∧ reached.dialect = schema.dialect ∧
          reached.tables =
            schema.tables.filter fun table => ∀ selection ∈ selections, selection.Wants table := by
  refine ⟨fun record => Schema.exists_read_iff, fun schema hread selections => ?_⟩
  have hreadable := (Schema.isReadable_of_read hread).foldl_select selections
  refine ⟨hreadable.wellFormed.keepsRules, ?_, ?_⟩
  · rw [Schema.foldl_select]
  · rw [Schema.foldl_select]

/-- The dump of a library is accepted with what it gives, and two selections from it leave one
table, with its rules kept. -/
theorem acceptance_library :
    Schema.read Schema.libraryDump = .ok Schema.librarySchema ∧
      Schema.GivesRecord Schema.schemaFields Schema.GivesSchema Schema.libraryDump
        Schema.librarySchema.toRecord ∧
      let selections : List Selection := [{ noViews := true }, { schemas := ["library"] }]
      let reached := selections.foldl Schema.select Schema.librarySchema
      reached.toRecord.KeepsRules ∧ reached.tables.map Table.name = ["books"] := by
  have hread : Schema.read Schema.libraryDump = .ok Schema.librarySchema := by rfl
  obtain ⟨haccepted, hreached⟩ := acceptance_read Schema.libraryDump
  have hgives := (haccepted Schema.librarySchema.toRecord).1 ⟨_, hread, rfl⟩
  have hrules := hreached _ hread [{ noViews := true }, { schemas := ["library"] }]
  exact ⟨hread, hgives.1, hrules.1, by decide⟩

end SchemaCodegen
