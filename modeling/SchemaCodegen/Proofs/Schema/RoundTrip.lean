import SchemaCodegen.Proofs.Schema.Reading
import SchemaCodegen.Schema.Dump
import SchemaCodegen.Schema.Writing

/-!
# Proofs: reading what was written

A readable schema is read from its document as it was written, field by field and record by record.
Since reading gives readable schemas only and selections keep them so, whatever was read and
selected from comes back from its dump unchanged, in both places that a dump may have it.
-/

namespace SchemaCodegen.Schema

open SchemaCodegen.Text
open Document (ofOption record text texts)

/-! ## Simple values -/

theorem Checked.ok_ap_ok {α β : Type} (f : α → β) (a : α) :
    (Checked.ok f).ap (.ok a) = .ok (f a) :=
  rfl

theorem Checked.under_ok {α : Type} (step : Step) (a : α) : (Checked.ok a).under step = .ok a :=
  rfl

theorem readText_text (value : String) : readText (text value) = .ok value :=
  rfl

theorem readInt_int [Holding] (n : Int) : readInt (.int n) = .ok n :=
  rfl

theorem readTruth_truth [Holding] (value : Bool) : readTruth (.truth value) = .ok value :=
  rfl

/-- A name with a character and without half a pair is read as it was written. -/
theorem readName_text [Holding] {name : String} (hne : name ≠ "")
    (hwhole : hasLoneHalf name = false) :
    readName (text name) = .ok name := by
  have hempty : name.isEmpty = false := by simpa using hne
  simp [readName, readText, readWhole, Checked.andThen, hwhole, hempty]

theorem readIntFrom_int [Holding] {bound n : Int} (h : bound ≤ n) :
    readIntFrom bound (.int n) = .ok n := by
  have hbound : ¬ n < bound := by omega
  simp [readIntFrom, readInt, Checked.andThen, hbound]

section Combinators

variable {α : Type} {read : Document → Checked α} {write : α → Document}

theorem items_map {values : List α} (h : ∀ a ∈ values, read (write a) = .ok a) (position : Nat) :
    Checked.items read position (values.map write) = .ok values := by
  induction values generalizing position with
  | nil => rfl
  | cons a values ih =>
    rw [List.forall_mem_cons] at h
    rw [List.map_cons, Checked.items, h.1, ih h.2]
    rfl

theorem readList_map {values : List α} (h : ∀ a ∈ values, read (write a) = .ok a) :
    readList read (.list (values.map write)) = .ok values :=
  items_map h 0

theorem readList_texts (values : List String) : readList readText (texts values) = .ok values :=
  readList_map fun _ _ => rfl

theorem readFilledList_texts {values : List String} (h : values ≠ []) :
    readFilledList readText (texts values) = .ok values := by
  have hempty : values.isEmpty = false := by simpa using h
  simp [readFilledList, readList_texts, Checked.andThen, hempty]

/-- A value that may be absent is read as it was written, provided that no value is written as
null. -/
theorem readNullable_ofOption {value : Option α} (hnull : ∀ a ∈ value, write a ≠ .null)
    (h : ∀ a ∈ value, read (write a) = .ok a) :
    readNullable read (ofOption write value) = .ok value := by
  cases value with
  | none => rfl
  | some a =>
    have hread := h a rfl
    have hne := hnull a rfl
    rw [ofOption, readNullable]
    · rw [hread]
      rfl
    · exact hne

theorem readOneOf_text [Holding] {values : List α} {name : α → String} {a : α}
    (hfind : values.find? (fun value => name value == name a) = some a)
    (hplain : hasPrivate (name a) = false) :
    readOneOf values name (text (name a)) = .ok a := by
  simp [readOneOf, innerText?, readWhole, hasLoneHalf_eq_false hplain, Checked.andThen, findNamed,
    hfind]

/-- A record of known fields is read from the fields that it was written with. -/
theorem readRecord_record [Holding] {kind : String} {known : Entries → List String}
    {fields : Entries → Checked α} {written : List (String × Document)}
    (hknown : ∀ field ∈ written,
      field.1 ∈ known (written.map fun field => (text field.1, field.2)))
    (hplain : ∀ field ∈ written, hasPrivate field.1 = false) :
    readRecord kind known fields (record written) =
      fields (written.map fun field => (text field.1, field.2)) := by
  have hkeys : ((written.map fun field => (text field.1, field.2)).any
      fun entry => isBrokenKey entry.1) = false := by
    rw [List.any_eq_false]
    intro entry hentry
    obtain ⟨field, hfield, rfl⟩ := List.mem_map.1 hentry
    simp [isBrokenKey, hasLoneHalf_eq_false (hplain field hfield)]
  have hextra : extraFaults (known (written.map fun field => (text field.1, field.2)))
      (written.map fun field => (text field.1, field.2)) = [] := by
    rw [extraFaults, List.filterMap_eq_nil_iff]
    intro entry hentry
    obtain ⟨field, hfield, rfl⟩ := List.mem_map.1 hentry
    simp [keyFault, hknown field hfield]
  rw [record, readRecord, hkeys, hextra]
  rfl

end Combinators

/-! ## Columns -/

theorem readIdentity_identityDocument [Holding] {identity : Identity} (h : 1 ≤ identity.cache) :
    readIdentity (identityDocument identity) = .ok identity := by
  rw [readIdentity, identityDocument, readRecord_record]
  · simp [optional, Document.entry?, readInt_int, readIntFrom_int h, readTruth_truth,
      Checked.under_ok, Checked.ok_ap_ok]
  · simp [identityFields]
  · simp only [List.forall_mem_cons]
    decide

theorem readColumn_columnDocument [Holding] {column : Column} (h : column.WellFormed)
    (hwhole : column.HasWholeNames) : readColumn (columnDocument column) = .ok column := by
  have htexts : ∀ value : Option String,
      readNullable readText (ofOption text value) = .ok value :=
    fun value => readNullable_ofOption (fun _ _ => nofun) fun _ _ => rfl
  have hlength : readNullable readInt (ofOption .int column.length) = .ok column.length :=
    readNullable_ofOption (fun _ _ => nofun) fun _ _ => rfl
  have hprecision :
      readNullable (readIntFrom 0) (ofOption .int column.precision) = .ok column.precision :=
    readNullable_ofOption (fun _ _ => nofun) fun n hn => readIntFrom_int (h.precision_nonneg n hn)
  have hscale : readNullable (readIntFrom 0) (ofOption .int column.scale) = .ok column.scale :=
    readNullable_ofOption (fun _ _ => nofun) fun n hn => readIntFrom_int (h.scale_nonneg n hn)
  have hidentity :
      readNullable readIdentity (ofOption identityDocument column.identity) = .ok column.identity :=
    readNullable_ofOption (fun _ _ => nofun) fun identity hmem =>
      readIdentity_identityDocument (h.one_le_cache identity hmem)
  have hlabels :
      readNullable (readList readText) (ofOption texts column.labels) = .ok column.labels :=
    readNullable_ofOption (fun _ _ => nofun) fun labels _ => readList_texts labels
  rw [readColumn, Checked.provided_eq_ok_iff]
  refine ⟨?_, columnRule_eq_none_iff.2 h.isIdentity_of_identity⟩
  rw [columnDocument, readRecord_record]
  · simp [required, optional, nullable, Document.entry?, readName_text h.name_ne hwhole.name,
      readName_text h.typeName_ne hwhole.typeName, readIntFrom_int h.one_le_position, readText_text,
      readTruth_truth, htexts, hlength, hprecision, hscale, hidentity, hlabels, Checked.under_ok,
      Checked.ok_ap_ok]
  · simp [columnFields]
  · simp only [List.forall_mem_cons]
    decide

/-! ## Constraints and indexes -/

theorem readForeignKey_foreignKeyDocument [Holding] {target : ForeignKey} (h : target.WellFormed)
    (hwhole : target.HasWholeNames) :
    readForeignKey (foreignKeyDocument target) = .ok target := by
  rw [readForeignKey, foreignKeyDocument, readRecord_record]
  · simp [required, optional, Document.entry?, readName_text h.schema_ne hwhole.schema,
      readName_text h.table_ne hwhole.table, readFilledList_texts h.columns_ne, readText_text,
      Checked.under_ok, Checked.ok_ap_ok]
  · simp [foreignKeyFields]
  · simp only [List.forall_mem_cons]
    decide

/-- The record of a constraint stands for the constraint. -/
theorem toConstraint_eq_ok {constraint : Constraint}
    (h : ∀ target ∈ constraint.target?, target.columns.length = constraint.columns.length) :
    (ConstraintRecord.mk constraint.name constraint.kind.name constraint.columns
      constraint.target?).toConstraint = .ok constraint := by
  obtain ⟨name, kind, columns⟩ := constraint
  cases kind with
  | primaryKey => rfl
  | unique => rfl
  | foreignKey target =>
    have hlength : target.columns.length = columns.length := h target rfl
    simp [ConstraintRecord.toConstraint, ConstraintKind.name, Constraint.target?, hlength]
  | check => rfl

theorem readConstraint_constraintDocument [Holding] {constraint : Constraint}
    (h : constraint.WellFormed)
    (hwhole : constraint.HasWholeNames) :
    readConstraint (constraintDocument constraint) = .ok constraint := by
  have hkind : readOneOf ConstraintKind.names id (text constraint.kind.name) =
      .ok constraint.kind.name := by
    refine readOneOf_text (a := constraint.kind.name) ?_ ?_
    · cases constraint.kind <;> simp [ConstraintKind.names, ConstraintKind.name]
    · cases constraint.kind <;> simp only [id, ConstraintKind.name] <;> decide
  have htarget : readNullable readForeignKey (ofOption foreignKeyDocument constraint.target?) =
      .ok constraint.target? :=
    readNullable_ofOption (fun _ _ => nofun) fun target hmem =>
      readForeignKey_foreignKeyDocument (h.target target hmem) (hwhole.target target hmem)
  rw [readConstraint, Checked.andThen_eq_ok_iff]
  refine ⟨_, ?_, toConstraint_eq_ok h.length_eq⟩
  rw [constraintDocument, readRecord_record]
  · simp [required, optional, nullable, Document.entry?, readName_text h.name_ne hwhole.name, hkind,
      readList_texts, htarget, Checked.under_ok, Checked.ok_ap_ok]
  · simp [constraintFields]
  · simp only [List.forall_mem_cons]
    decide

theorem readIndex_indexDocument [Holding] {index : Index} (h : index.WellFormed)
    (hwhole : hasLoneHalf index.name = false) : readIndex (indexDocument index) = .ok index := by
  have hcolumns : readIndexColumns (texts index.columns) = .ok index.columns :=
    Checked.provided_eq_ok_iff.2
      ⟨readFilledList_texts h.columns_ne, indexColumnsRule_eq_none_iff.2 h.nodup⟩
  rw [readIndex, indexDocument, readRecord_record]
  · simp [required, optional, Document.entry?, readName_text h.name_ne hwhole, hcolumns,
      readTruth_truth, Checked.under_ok, Checked.ok_ap_ok]
  · simp [indexFields]
  · simp only [List.forall_mem_cons]
    decide

/-! ## Tables and schemas -/

/-- A well-formed table breaks no rule. -/
theorem tableRule_eq_none {table : Table} (h : table.WellFormed) : tableRule table = none := by
  refine tableRule_eq_none_iff.2 ⟨?_, h.constraint_columns⟩
  refine List.pairwise_cons.2 ⟨fun position hposition => ?_, h.positions⟩
  obtain ⟨column, hcolumn, rfl⟩ := List.mem_map.1 hposition
  have hone := (h.columns column hcolumn).one_le_position
  omega

theorem readTable_tableDocument [Holding] {table : Table} (h : table.WellFormed)
    (hwhole : table.HasWholeNames) : readTable (tableDocument table) = .ok table := by
  have hkind : readOneOf TableKind.all TableKind.name (text table.kind.name) = .ok table.kind := by
    refine readOneOf_text ?_ ?_
    · cases table.kind <;> simp [TableKind.all, TableKind.name]
    · cases table.kind <;> decide
  have hcomment : readNullable readText (ofOption text table.comment) = .ok table.comment :=
    readNullable_ofOption (fun _ _ => nofun) fun _ _ => rfl
  have hcolumns := readList_map fun column hmem =>
    readColumn_columnDocument (h.columns column hmem) (hwhole.columns column hmem)
  have hconstraints := readList_map fun constraint hmem =>
    readConstraint_constraintDocument (h.constraints constraint hmem)
      (hwhole.constraints constraint hmem)
  have hindexes := readList_map fun index hmem =>
    readIndex_indexDocument (h.indexes index hmem) (hwhole.indexes index hmem)
  rw [readTable, Checked.provided_eq_ok_iff]
  refine ⟨?_, tableRule_eq_none h⟩
  rw [tableDocument, readRecord_record]
  · simp [required, optional, nullable, readOwner, Document.entry?, readText_text,
      readName_text h.name_ne hwhole.name, hkind, hcomment, hcolumns, hconstraints, hindexes,
      Checked.under_ok, Checked.ok_ap_ok]
  · simp [tableFields, Document.entry?]
  · simp only [List.forall_mem_cons]
    decide

/-- A readable schema is read from its document. -/
theorem read_toDocument [Holding] {schema : Schema} (h : schema.IsReadable) :
    read schema.toDocument = .ok schema := by
  have hdialect : readDialect (text schema.dialect.name) = .ok schema.dialect := by
    refine readOneOf_text ?_ ?_
    · cases schema.dialect <;> simp [Dialect.all, Dialect.name]
    · cases schema.dialect <;> decide
  have htables := readList_map fun table hmem =>
    readTable_tableDocument (h.wellFormed.tables table hmem) (h.whole table hmem)
  have hrule : repeatedTableRule [] schema.tables = none :=
    repeatedTableRule_eq_none_iff.2 ⟨h.wellFormed.keys, fun _ _ => List.not_mem_nil⟩
  rw [read, Checked.provided_eq_ok_iff]
  refine ⟨?_, hrule⟩
  rw [toDocument, readRecord_record]
  · simp [optional, Document.entry?, hdialect, htables, Checked.under_ok, Checked.ok_ap_ok]
  · simp [schemaFields]
  · simp only [List.forall_mem_cons]
    decide

/-! ## Dumps -/

/-- A mapping under the key `schema` is where the schema of a dump is. -/
theorem dumpBody?_nested (schema : Schema) :
    dumpBody? (record [("schema", schema.toDocument)]) = some schema.toDocument := by
  simp [dumpBody?, record, toDocument, Document.get?, Document.entry?]

/-- The document of a schema is a dump that is the schema itself. -/
theorem dumpBody?_toDocument (schema : Schema) :
    dumpBody? schema.toDocument = some schema.toDocument := by
  simp [dumpBody?, record, toDocument, Document.get?, Document.entry?]

theorem ofDump_eq_ok [Holding] {dump body : Document} {schema : Schema}
    (hbody : dumpBody? dump = some body)
    (hread : read body = .ok schema) : ofDump dump = .ok schema := by
  simp [ofDump, hbody, hread]

/-- Whatever was read, and whatever was selected from it, is read again from the document that it is
written as, by itself and in both kinds of dumps. -/
theorem read_toDocument_selected [Holding] {document : Document} {schema : Schema}
    (h : read document = .ok schema) (selections : List Selection) :
    let selected := selections.foldl Schema.select schema
    read selected.toDocument = .ok selected ∧ ofDump selected.toDocument = .ok selected ∧
      ofDump (record [("schema", selected.toDocument)]) = .ok selected := by
  have hreadable := (isReadable_of_read h).foldl_select selections
  have hread := read_toDocument hreadable
  exact ⟨hread, ofDump_eq_ok (dumpBody?_toDocument _) hread,
    ofDump_eq_ok (dumpBody?_nested _) hread⟩

/-- A dump of a table and a view, with values in other spellings than they are written in, a schema
under its other key, and fields that are absent or null. -/
def libraryDump : Document :=
  record [
    ("tables", .list [
      record [
        ("name", text "books"),
        ("schema_name", text "library"),
        ("columns", .list [
          record [
            ("name", text "id"),
            ("ordinal_position", text " +1.0 "),
            ("is_nullable", text "No"),
            ("udt_name", text "int8"),
            ("is_identity", .int 1),
            ("identity", record [("max_value", .int 9223372036854775808), ("cache", .truth true)])],
          record [
            ("name", text "genre"),
            ("ordinal_position", .int 3),
            ("udt_name", text "genre"),
            ("comment", .null),
            ("enum_values", texts [])]]),
        ("constraints", .list [
          record [
            ("name", text "books_series"),
            ("constraint_type", text "FOREIGN KEY"),
            ("columns", texts ["id"]),
            ("foreign_key", record [
              ("ref_schema", text "library"),
              ("ref_table", text "series"),
              ("ref_columns", texts ["id"])])]])],
      record [("name", text "shelves"), ("table_type", text "VIEW")]])]

/-- The schema of the dump. -/
def librarySchema : Schema :=
  { tables := [
      { schema := "library"
        name := "books"
        columns := [
          { name := "id", position := 1, nullable := false, typeName := "int8", isIdentity := true,
            identity := some { maxValue := 9223372036854775808 } },
          { name := "genre", position := 3, typeName := "genre", labels := some [] }]
        constraints := [
          { name := "books_series"
            kind := .foreignKey { schema := "library", table := "series", columns := ["id"] }
            columns := ["id"] }] },
      { name := "shelves", kind := .view }] }

/-- Without its view, the schema of the dump comes back as its one table. -/
theorem read_toDocument_library :
    read libraryDump = .ok librarySchema ∧
      let selected := librarySchema.select { noViews := true }
      (read selected.toDocument = .ok selected ∧ ofDump selected.toDocument = .ok selected ∧
        ofDump (record [("schema", selected.toDocument)]) = .ok selected) ∧
        selected.tables.map Table.name = ["books"] := by
  have hread : read libraryDump = .ok librarySchema := by rfl
  exact ⟨hread, read_toDocument_selected hread [{ noViews := true }], by decide⟩

end SchemaCodegen.Schema
