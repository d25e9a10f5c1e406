import Mathlib.Data.List.Chain
import SchemaCodegen.Schema.Invariant
import SchemaCodegen.Schema.Reading
import SchemaCodegen.Schema.Selection

/-!
# Proofs: what reading guarantees

A schema that was read from a document is well formed, and the names that had to be there hold no
half of a pair by itself. The proof goes down the records: what a record gives was read from its
fields, and what its rule refuses does not get through.
-/

namespace SchemaCodegen

open SchemaCodegen.Text

/-! ## Names that are looked into -/

/-- The names of a column are whole. -/
structure Column.HasWholeNames [Holding] (column : Column) : Prop where
  /-- The name of the column is whole. -/
  name : hasLoneHalf column.name = false
  /-- The name of its type is whole. -/
  typeName : hasLoneHalf column.typeName = false

/-- The names on the referenced side of a foreign key are whole. -/
structure ForeignKey.HasWholeNames [Holding] (target : ForeignKey) : Prop where
  /-- The name of the schema is whole. -/
  schema : hasLoneHalf target.schema = false
  /-- The name of the table is whole. -/
  table : hasLoneHalf target.table = false

/-- The names of a constraint are whole. -/
structure Constraint.HasWholeNames [Holding] (constraint : Constraint) : Prop where
  /-- The name of the constraint is whole. -/
  name : hasLoneHalf constraint.name = false
  /-- The names on the referenced side are whole. -/
  target : ∀ target ∈ constraint.target?, target.HasWholeNames

/-- The names of a table and of its parts are whole. -/
structure Table.HasWholeNames [Holding] (table : Table) : Prop where
  /-- The name of the table is whole. -/
  name : hasLoneHalf table.name = false
  /-- The names of its columns are whole. -/
  columns : ∀ column ∈ table.columns, column.HasWholeNames
  /-- The names of its constraints are whole. -/
  constraints : ∀ constraint ∈ table.constraints, constraint.HasWholeNames
  /-- The names of its indexes are whole. -/
  indexes : ∀ index ∈ table.indexes, hasLoneHalf index.name = false

/-- What every schema satisfies that was read from a document. -/
structure Schema.IsReadable [Holding] (schema : Schema) : Prop where
  /-- The schema is well formed. -/
  wellFormed : schema.WellFormed
  /-- The names of its tables are whole. -/
  whole : ∀ table ∈ schema.tables, table.HasWholeNames

namespace Schema

/-! ## Simple values -/

theorem Checked.fail_ne_ok {α : Type} {cause : Cause} {a : α} : Checked.fail cause ≠ Checked.ok a :=
  nofun

/-- A function applied to a value gives a value of some kind exactly when the values of the field
and of the function do; read from right to left, this takes a record apart field by field. -/
theorem Checked.exists_ap_eq_ok_iff {α β : Type} {f : Checked (α → β)} {x : Checked α}
    {p : β → Prop} :
    (∃ b, f.ap x = .ok b ∧ p b) ↔ ∃ a, x = .ok a ∧ ∃ g, f = .ok g ∧ p (g a) := by
  constructor
  · rintro ⟨b, hb, hp⟩
    obtain ⟨g, a, hg, ha, rfl⟩ := ap_eq_ok_iff.1 hb
    exact ⟨a, ha, g, hg, hp⟩
  · rintro ⟨a, ha, g, hg, hp⟩
    exact ⟨g a, ap_eq_ok_iff.2 ⟨g, a, hg, ha, rfl⟩, hp⟩

theorem Checked.withFaults_eq_ok_iff {α : Type} {x : Checked α} {faults : List Fault} {a : α} :
    x.withFaults faults = .ok a ↔ x = .ok a ∧ faults = [] := by
  cases faults with
  | nil => simp [withFaults]
  | cons fault faults => simp [withFaults]

/-- A text that is looked into is read exactly when it is whole. -/
theorem readWhole_eq_ok_iff [Holding] {value result : String} :
    readWhole value = .ok result ↔ value = result ∧ hasLoneHalf result = false := by
  unfold readWhole
  split
  · next h =>
    constructor
    · intro hfail
      exact absurd hfail Checked.fail_ne_ok
    · rintro ⟨rfl, hwhole⟩
      rw [h] at hwhole
      cases hwhole
  · next h =>
    constructor
    · intro hok
      obtain rfl := Checked.ok.inj hok
      exact ⟨rfl, by simpa using h⟩
    · rintro ⟨rfl, _⟩
      rfl

/-- A name that was read has a character and is whole. -/
theorem of_readName [Holding] {document : Document} {name : String}
    (h : readName document = .ok name) :
    name ≠ "" ∧ hasLoneHalf name = false := by
  unfold readName at h
  obtain ⟨value, hvalue, hname⟩ := Checked.andThen_eq_ok_iff.1 h
  obtain ⟨text, _, hwhole⟩ := Checked.andThen_eq_ok_iff.1 hvalue
  obtain ⟨rfl, hwhole⟩ := readWhole_eq_ok_iff.1 hwhole
  split at hname
  · exact absurd hname Checked.fail_ne_ok
  · next hempty =>
    obtain rfl := Checked.ok.inj hname
    refine ⟨fun he => hempty ?_, hwhole⟩
    rw [he]
    rfl

/-- A number that was read from a bound on is not below it. -/
theorem of_readIntFrom [Holding] {bound n : Int} {document : Document}
    (h : readIntFrom bound document = .ok n) : bound ≤ n := by
  unfold readIntFrom at h
  obtain ⟨value, _, hvalue⟩ := Checked.andThen_eq_ok_iff.1 h
  split at hvalue
  · exact absurd hvalue Checked.fail_ne_ok
  · next hbound =>
    obtain rfl := Checked.ok.inj hvalue
    omega

section Combinators

variable {α : Type} {read : Document → Checked α} {p : α → Prop}

/-- What the items of a list satisfy, whatever they are read from, the values of a list satisfy. -/
theorem forall_of_items (hp : ∀ document a, read document = .ok a → p a) {position : Nat}
    {documents : List Document} {values : List α}
    (h : Checked.items read position documents = .ok values) : ∀ a ∈ values, p a := by
  induction documents generalizing position values with
  | nil =>
    obtain rfl := Checked.ok.inj h
    exact List.forall_mem_nil p
  | cons document documents ih =>
    obtain ⟨make, rest, hmake, hrest, rfl⟩ := Checked.ap_eq_ok_iff.1 h
    obtain ⟨a, ha, rfl⟩ := Checked.map_eq_ok_iff.1 hmake
    exact List.forall_mem_cons.2 ⟨hp document a (Checked.under_eq_ok_iff.1 ha), ih hrest⟩

theorem forall_of_readList (hp : ∀ document a, read document = .ok a → p a) {document : Document}
    {values : List α} (h : readList read document = .ok values) : ∀ a ∈ values, p a := by
  cases document with
  | list documents => exact forall_of_items hp h
  | set documents => exact forall_of_items hp h
  | _ => exact absurd h Checked.fail_ne_ok

theorem ne_nil_of_readFilledList {document : Document} {values : List α}
    (h : readFilledList read document = .ok values) : values ≠ [] := by
  unfold readFilledList at h
  obtain ⟨list, _, hlist⟩ := Checked.andThen_eq_ok_iff.1 h
  split at hlist
  · exact absurd hlist Checked.fail_ne_ok
  · next hne =>
    obtain rfl := Checked.ok.inj hlist
    rintro rfl
    exact hne rfl

variable {entries : Entries} {name : String}

theorem of_required (hp : ∀ document a, read document = .ok a → p a) {a : α}
    (h : required entries name read = .ok a) : p a := by
  unfold required at h
  split at h
  · exact hp _ a (Checked.under_eq_ok_iff.1 h)
  · exact absurd (Checked.under_eq_ok_iff.1 h) Checked.fail_ne_ok

theorem of_optional (hp : ∀ document a, read document = .ok a → p a) {absent a : α}
    (habsent : p absent) (h : optional entries name absent read = .ok a) : p a := by
  unfold optional at h
  split at h
  · exact hp _ a (Checked.under_eq_ok_iff.1 h)
  · obtain rfl := Checked.ok.inj h
    exact habsent

theorem of_nullable (hp : ∀ document a, read document = .ok a → p a) {value : Option α}
    (h : nullable entries name read = .ok value) : ∀ a ∈ value, p a := by
  have habsent : ∀ a ∈ (none : Option α), p a := fun a ha => by cases ha
  refine of_optional (p := fun value : Option α => ∀ a ∈ value, p a) ?_ habsent h
  intro document value hvalue
  unfold readNullable at hvalue
  split at hvalue
  · obtain rfl := Checked.ok.inj hvalue
    exact habsent
  · obtain ⟨a, ha, rfl⟩ := Checked.map_eq_ok_iff.1 hvalue
    intro b hb
    obtain rfl := Option.mem_some.1 hb
    exact hp _ a ha

/-- The value of a record is made of its fields. -/
theorem exists_fields_of_readRecord [Holding] {kind : String} {known : Entries → List String}
    {fields : Entries → Checked α} {document : Document} {a : α}
    (h : readRecord kind known fields document = .ok a) :
    ∃ entries, ∃ b, fields entries = .ok b ∧ b = a := by
  unfold readRecord at h
  split at h
  · split at h
    · exact absurd h Checked.fail_ne_ok
    · exact ⟨_, a, (Checked.withFaults_eq_ok_iff.1 h).1, rfl⟩
  · exact absurd h Checked.fail_ne_ok

end Combinators

/-! ## Columns -/

/-- Identity options that were read reserve a value at least. -/
theorem one_le_cache_of_readIdentity [Holding] {document : Document} {identity : Identity}
    (h : readIdentity document = .ok identity) : 1 ≤ identity.cache := by
  obtain ⟨entries, hfields⟩ := exists_fields_of_readRecord h
  simp only [Checked.exists_ap_eq_ok_iff, Checked.ok.injEq, exists_eq_left'] at hfields
  obtain ⟨_, _, cache, hcache, _, _, _, _, _, _, _, _, rfl⟩ := hfields
  exact of_optional (p := fun n => 1 ≤ n) (fun _ _ => of_readIntFrom) (Int.le_refl 1) hcache

theorem columnRule_eq_none_iff {column : Column} :
    columnRule column = none ↔ (column.identity.isSome → column.isIdentity) := by
  unfold columnRule
  cases column.identity <;> cases column.isIdentity <;> simp

theorem of_readColumn [Holding] {document : Document} {column : Column}
    (h : readColumn document = .ok column) : column.WellFormed ∧ column.HasWholeNames := by
  obtain ⟨hrecord, hrule⟩ := Checked.provided_eq_ok_iff.1 h
  obtain ⟨entries, hfields⟩ := exists_fields_of_readRecord hrecord
  simp only [Checked.exists_ap_eq_ok_iff, Checked.ok.injEq, exists_eq_left'] at hfields
  obtain ⟨_, _, _, _, identity, hidentity, _, _, _, _, _, _, scale, hscale, precision, hprecision,
    _, _, typeName, htypeName, _, _, _, _, position, hposition, name, hname, rfl⟩ := hfields
  have hname := of_required (fun _ _ => of_readName) hname
  have htypeName := of_required (fun _ _ => of_readName) htypeName
  refine ⟨{ name_ne := hname.1, typeName_ne := htypeName.1, one_le_position := ?_,
            precision_nonneg := ?_, scale_nonneg := ?_, isIdentity_of_identity := ?_,
            one_le_cache := ?_ }, ⟨hname.2, htypeName.2⟩⟩
  · -- one_le_position
    exact of_required (p := fun n => 1 ≤ n) (fun _ _ => of_readIntFrom) hposition
  · -- precision_nonneg
    exact of_nullable (p := fun n => 0 ≤ n) (fun _ _ => of_readIntFrom) hprecision
  · -- scale_nonneg
    exact of_nullable (p := fun n => 0 ≤ n) (fun _ _ => of_readIntFrom) hscale
  · -- isIdentity_of_identity
    exact columnRule_eq_none_iff.1 hrule
  · -- one_le_cache
    exact of_nullable (p := fun identity : Identity => 1 ≤ identity.cache)
      (fun _ _ => one_le_cache_of_readIdentity) hidentity

/-! ## Constraints and indexes -/

theorem of_readForeignKey [Holding] {document : Document} {target : ForeignKey}
    (h : readForeignKey document = .ok target) : target.WellFormed ∧ target.HasWholeNames := by
  obtain ⟨entries, hfields⟩ := exists_fields_of_readRecord h
  simp only [Checked.exists_ap_eq_ok_iff, Checked.ok.injEq, exists_eq_left'] at hfields
  obtain ⟨_, _, _, _, columns, hcolumns, table, htable, schema, hschema, rfl⟩ := hfields
  have hschema := of_required (fun _ _ => of_readName) hschema
  have htable := of_required (fun _ _ => of_readName) htable
  have hcolumns : columns ≠ [] := of_required (fun _ _ => ne_nil_of_readFilledList) hcolumns
  exact ⟨⟨hschema.1, htable.1, hcolumns⟩, ⟨hschema.2, htable.2⟩⟩

theorem target?_plainKind (name kind : String) (columns : List String) :
    (Constraint.mk name (plainKind kind) columns).target? = none := by
  unfold plainKind
  split
  · rfl
  · split <;> rfl

/-- A constraint has the name, the columns and the referenced side of its record, and both sides
have the same number of columns. -/
theorem of_toConstraint {record : ConstraintRecord} {constraint : Constraint}
    (h : record.toConstraint = .ok constraint) :
    constraint.name = record.name ∧ constraint.columns = record.columns ∧
      constraint.target? = record.target ∧
      ∀ target ∈ record.target, target.columns.length = record.columns.length := by
  unfold ConstraintRecord.toConstraint at h
  split at h
  · split at h
    · exact absurd h Checked.fail_ne_ok
    · next target htarget =>
      split at h
      · next hlength =>
        obtain rfl := Checked.ok.inj h
        rw [htarget]
        refine ⟨rfl, rfl, rfl, fun other hother => ?_⟩
        obtain rfl := Option.mem_some.1 hother
        exact eq_of_beq hlength
      · exact absurd h Checked.fail_ne_ok
  · split at h
    · next htarget =>
      obtain rfl := Checked.ok.inj h
      rw [htarget]
      exact ⟨rfl, rfl, target?_plainKind _ _ _, nofun⟩
    · exact absurd h Checked.fail_ne_ok

theorem of_readConstraint [Holding] {document : Document} {constraint : Constraint}
    (h : readConstraint document = .ok constraint) :
    constraint.WellFormed ∧ constraint.HasWholeNames := by
  obtain ⟨record, hrecord, hconstraint⟩ := Checked.andThen_eq_ok_iff.1 h
  obtain ⟨hname', hcolumns', htarget', hlength⟩ := of_toConstraint hconstraint
  obtain ⟨entries, hfields⟩ := exists_fields_of_readRecord hrecord
  simp only [Checked.exists_ap_eq_ok_iff, Checked.ok.injEq, exists_eq_left'] at hfields
  obtain ⟨target, htarget, columns, _, _, _, name, hname, rfl⟩ := hfields
  have hname := of_required (fun _ _ => of_readName) hname
  have htarget := of_nullable (fun _ _ => of_readForeignKey) htarget
  refine ⟨{ name_ne := ?_, target := ?_, length_eq := ?_ }, { name := ?_, target := ?_ }⟩
  · -- name_ne
    rw [hname']
    exact hname.1
  · -- well-formed target
    rw [htarget']
    exact fun target hmem => (htarget target hmem).1
  · -- length_eq
    rw [htarget', hcolumns']
    exact hlength
  · -- whole name
    rw [hname']
    exact hname.2
  · -- whole names of the target
    rw [htarget']
    exact fun target hmem => (htarget target hmem).2

theorem indexColumnsRule_eq_none_iff {columns : List String} :
    indexColumnsRule columns = none ↔ columns.Nodup := by
  simp [indexColumnsRule]

theorem of_readIndex [Holding] {document : Document} {index : Index}
    (h : readIndex document = .ok index) :
    index.WellFormed ∧ hasLoneHalf index.name = false := by
  obtain ⟨entries, hfields⟩ := exists_fields_of_readRecord h
  simp only [Checked.exists_ap_eq_ok_iff, Checked.ok.injEq, exists_eq_left'] at hfields
  obtain ⟨_, _, columns, hcolumns, name, hname, rfl⟩ := hfields
  have hname := of_required (fun _ _ => of_readName) hname
  have hcolumns : columns ≠ [] ∧ columns.Nodup := by
    refine of_required (p := fun columns => columns ≠ [] ∧ columns.Nodup) ?_ hcolumns
    intro document columns hread
    obtain ⟨hlist, hrule⟩ := Checked.provided_eq_ok_iff.1 hread
    exact ⟨ne_nil_of_readFilledList hlist, indexColumnsRule_eq_none_iff.1 hrule⟩
  exact ⟨⟨hname.1, hcolumns.1, hcolumns.2⟩, hname.2⟩

/-! ## Tables -/

/-- No position breaks the rule exactly when they increase from the one before the first. -/
theorem positionRule_eq_none_iff {table : String} {previous : Int} {columns : List Column} :
    positionRule table previous columns = none ↔
      (previous :: columns.map (·.position)).Pairwise (· < ·) := by
  rw [← List.isChain_iff_pairwise]
  induction columns generalizing previous with
  | nil => simp [positionRule]
  | cons column columns ih =>
    rw [positionRule, List.map_cons, List.isChain_cons_cons, ← ih]
    split
    · next h =>
      have hnot : ¬ previous < column.position := by omega
      simp [hnot]
    · next h =>
      have hlt : previous < column.position := by omega
      simp [hlt]

/-- No constraint breaks the rule exactly when they name known columns only. -/
theorem constraintColumnsRule_eq_none_iff {table : String} {known : List String}
    {constraints : List Constraint} :
    constraintColumnsRule table known constraints = none ↔
      ∀ constraint ∈ constraints, ∀ column ∈ constraint.columns, column ∈ known := by
  induction constraints with
  | nil => simp [constraintColumnsRule]
  | cons constraint constraints ih =>
    have hmissing :
        (constraint.columns.filter fun column => !known.contains column).isEmpty = true ↔
          ∀ column ∈ constraint.columns, column ∈ known := by
      simp [List.filter_eq_nil_iff]
    rw [constraintColumnsRule, List.forall_mem_cons, ← ih]
    split
    · next h => exact ⟨fun hrest => ⟨hmissing.1 h, hrest⟩, fun hall => hall.2⟩
    · next h => exact ⟨nofun, fun hall => absurd (hmissing.2 hall.1) h⟩

theorem tableRule_eq_none_iff {table : Table} :
    tableRule table = none ↔ (0 :: table.columns.map (·.position)).Pairwise (· < ·) ∧
      ∀ constraint ∈ table.constraints, ∀ column ∈ constraint.columns,
        column ∈ table.columnNames := by
  rw [← @positionRule_eq_none_iff table.name, ← @constraintColumnsRule_eq_none_iff table.name]
  unfold tableRule
  split
  · next broken h => simp [h]
  · next h => simp [h]

theorem of_readTable [Holding] {document : Document} {table : Table}
    (h : readTable document = .ok table) :
    table.WellFormed ∧ table.HasWholeNames := by
  obtain ⟨hrecord, hrule⟩ := Checked.provided_eq_ok_iff.1 h
  obtain ⟨hpositions, hknown⟩ := tableRule_eq_none_iff.1 hrule
  obtain ⟨entries, hfields⟩ := exists_fields_of_readRecord hrecord
  simp only [Checked.exists_ap_eq_ok_iff, Checked.ok.injEq, exists_eq_left'] at hfields
  obtain ⟨indexes, hindexes, constraints, hconstraints, columns, hcolumns, _, _, _, _, name, hname,
    owner, _, rfl⟩ := hfields
  have hname := of_required (fun _ _ => of_readName) hname
  have hcolumns : ∀ column ∈ columns, column.WellFormed ∧ column.HasWholeNames :=
    of_optional (p := fun columns : List Column => ∀ column ∈ columns, _)
      (fun _ _ => forall_of_readList fun _ _ => of_readColumn) (List.forall_mem_nil _) hcolumns
  have hconstraints : ∀ c ∈ constraints, c.WellFormed ∧ c.HasWholeNames :=
    of_optional (p := fun constraints : List Constraint => ∀ c ∈ constraints, _)
      (fun _ _ => forall_of_readList fun _ _ => of_readConstraint) (List.forall_mem_nil _)
      hconstraints
  have hindexes : ∀ index ∈ indexes, index.WellFormed ∧ hasLoneHalf index.name = false :=
    of_optional (p := fun indexes : List Index => ∀ index ∈ indexes, _)
      (fun _ _ => forall_of_readList fun _ _ => of_readIndex) (List.forall_mem_nil _) hindexes
  refine ⟨{ name_ne := hname.1, columns := fun c hc => (hcolumns c hc).1,
            constraints := fun c hc => (hconstraints c hc).1,
            indexes := fun i hi => (hindexes i hi).1, positions := hpositions.of_cons,
            constraint_columns := hknown },
          { name := hname.2, columns := fun c hc => (hcolumns c hc).2,
            constraints := fun c hc => (hconstraints c hc).2,
            indexes := fun i hi => (hindexes i hi).2 }⟩

/-! ## Schemas -/

/-- No table breaks the rule exactly when their schemas and names are told apart, also from those
that were seen before. -/
theorem repeatedTableRule_eq_none_iff {seen : List (String × String)} {tables : List Table} :
    repeatedTableRule seen tables = none ↔
      (tables.map Table.key).Nodup ∧ ∀ table ∈ tables, table.key ∉ seen := by
  induction tables generalizing seen with
  | nil => simp [repeatedTableRule]
  | cons table tables ih =>
    rw [repeatedTableRule]
    split
    · next h =>
      have hseen : table.key ∈ seen := by simpa using h
      simp [hseen]
    · next h =>
      have hseen : table.key ∉ seen := by simpa using h
      rw [ih, List.map_cons, List.nodup_cons, List.forall_mem_cons]
      simp only [List.mem_cons, not_or, List.mem_map, not_exists, not_and]
      constructor
      · rintro ⟨hnodup, hnew⟩
        exact ⟨⟨fun other hother => (hnew other hother).1, hnodup⟩, hseen,
          fun other hother => (hnew other hother).2⟩
      · rintro ⟨⟨hne, hnodup⟩, _, hnew⟩
        exact ⟨hnodup, fun other hother => ⟨hne other hother, hnew other hother⟩⟩

/-- A schema that was read from a document is readable. -/
theorem isReadable_of_read [Holding] {document : Document} {schema : Schema}
    (h : read document = .ok schema) : schema.IsReadable := by
  obtain ⟨hrecord, hrule⟩ := Checked.provided_eq_ok_iff.1 h
  obtain ⟨entries, hfields⟩ := exists_fields_of_readRecord hrecord
  simp only [Checked.exists_ap_eq_ok_iff, Checked.ok.injEq, exists_eq_left'] at hfields
  obtain ⟨tables, htables, dialect, _, rfl⟩ := hfields
  have htables : ∀ table ∈ tables, table.WellFormed ∧ table.HasWholeNames :=
    of_optional (p := fun tables : List Table => ∀ table ∈ tables, _)
      (fun _ _ => forall_of_readList fun _ _ => of_readTable) (List.forall_mem_nil _) htables
  have hkeys : (tables.map Table.key).Nodup := (repeatedTableRule_eq_none_iff.1 hrule).1
  exact ⟨⟨fun t ht => (htables t ht).1, hkeys⟩, fun t ht => (htables t ht).2⟩

/-- A selection of the tables of a readable schema is readable. -/
theorem IsReadable.select [Holding] {schema : Schema} (h : schema.IsReadable)
    (selection : Selection) :
    (schema.select selection).IsReadable := by
  have hsub := tables_select_sublist schema selection
  have hkeys : ((schema.select selection).tables.map Table.key).Nodup :=
    h.wellFormed.keys.sublist (hsub.map Table.key)
  exact ⟨⟨fun t ht => h.wellFormed.tables t (hsub.subset ht), hkeys⟩,
    fun t ht => h.whole t (hsub.subset ht)⟩

theorem IsReadable.foldl_select [Holding] {schema : Schema} (h : schema.IsReadable)
    (selections : List Selection) : (selections.foldl Schema.select schema).IsReadable := by
  induction selections generalizing schema with
  | nil => exact h
  | cons selection selections ih => exact ih (h.select selection)

end Schema

end SchemaCodegen
