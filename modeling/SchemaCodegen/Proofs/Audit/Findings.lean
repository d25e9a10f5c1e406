import Mathlib.Data.List.Basic
import SchemaCodegen.Audit

/-!
# Proofs: the findings of each code

An audit looks at references, types, primary keys, indexes and circles one after another, and the
findings of each have codes of their own. The findings with given codes are therefore found in one
of these groups, and what the group looks for says what each of them is about.
-/

namespace SchemaCodegen.Audit

open SchemaCodegen.Text (Holding)

/-- The findings of a schema that have one of the given codes, in order. -/
def withCodes [Holding] (schema : Schema) (codes : List String) : Findings :=
  (full schema).filter fun finding => codes.contains finding.code

/-! ## Codes of a group -/

section Groups

variable {schema : Schema}

theorem code_of_mem_references [Holding] :
    ∀ finding ∈ references schema,
      finding.code ∈ ["FK_TARGET_UNRESOLVED", "FK_TARGET_COLUMN_MISSING"] := by
  intro finding hmem
  obtain ⟨table, _, hmem⟩ := List.mem_flatMap.1 hmem
  obtain ⟨constraint, _, hsome⟩ := List.mem_filterMap.1 hmem
  obtain ⟨target, _, hfinding⟩ := Option.bind_eq_some_iff.1 hsome
  unfold referenceFinding at hfinding
  split at hfinding
  · cases hfinding
    exact List.mem_cons_self ..
  · dsimp only at hfinding
    split at hfinding
    · cases hfinding
    · cases hfinding
      exact List.mem_cons_of_mem _ (List.mem_cons_self ..)

theorem code_of_mem_columnTypes :
    ∀ finding ∈ columnTypes schema, finding.code ∈ ["UNSUPPORTED_COLUMN_TYPE"] := by
  intro finding hmem
  obtain ⟨table, _, hmem⟩ := List.mem_flatMap.1 hmem
  obtain ⟨column, _, hfinding⟩ := List.mem_filterMap.1 hmem
  unfold typeFinding at hfinding
  dsimp only at hfinding
  split at hfinding
  · cases hfinding
    exact List.mem_cons_self ..
  · cases hfinding

theorem code_of_mem_primaryKeys :
    ∀ finding ∈ primaryKeys schema,
      finding.code ∈ ["MISSING_PRIMARY_KEY", "VIEW_WITHOUT_PRIMARY_KEY"] := by
  intro finding hmem
  obtain ⟨table, _, hfinding⟩ := List.mem_filterMap.1 hmem
  unfold primaryKeyFinding at hfinding
  split at hfinding
  · cases hfinding
    unfold missingPrimaryKey
    by_cases hview : table.isView = true
    · simp [hview]
    · simp [hview]
  · cases hfinding

theorem code_of_mem_indexes [Holding] :
    ∀ finding ∈ indexes schema, finding.code ∈ ["INDEX_COLUMN_NOT_FOUND"] := by
  intro finding hmem
  obtain ⟨table, _, hmem⟩ := List.mem_flatMap.1 hmem
  obtain ⟨index, _, hfinding⟩ := List.mem_filterMap.1 hmem
  unfold indexFinding at hfinding
  dsimp only at hfinding
  split at hfinding
  · cases hfinding
  · cases hfinding
    exact List.mem_cons_self ..

theorem code_of_mem_circles :
    ∀ finding ∈ circles schema, finding.code ∈ ["CIRCULAR_DEPENDENCY"] := by
  intro finding hmem
  obtain ⟨tables, _, rfl⟩ := List.mem_map.1 hmem
  exact List.mem_cons_self ..

theorem filter_code_eq_self {findings : Findings} {own codes : List String}
    (h : ∀ finding ∈ findings, finding.code ∈ own)
    (hin : ∀ code ∈ own, codes.contains code = true) :
    findings.filter (fun finding => codes.contains finding.code) = findings :=
  List.filter_eq_self.2 fun finding hmem => hin _ (h finding hmem)

theorem filter_code_eq_nil {findings : Findings} {own codes : List String}
    (h : ∀ finding ∈ findings, finding.code ∈ own)
    (hout : ∀ code ∈ own, codes.contains code = false) :
    findings.filter (fun finding => codes.contains finding.code) = [] :=
  List.filter_eq_nil_iff.2 fun finding hmem => by simp only [hout _ (h finding hmem),
    Bool.false_eq_true, not_false_iff]

end Groups

/-! ## What a group looks for -/

theorem filterMap_ite_eq {α β : Type} (p : α → Bool) (f : α → β) (as : List α) :
    as.filterMap (fun a => if p a then some (f a) else none) = (as.filter p).map f := by
  induction as with
  | nil => rfl
  | cons a as ih =>
    by_cases hp : p a = true
    · simp [hp, ih]
    · simp [hp, ih]

variable (schema : Schema)

theorem withCodes_eq [Holding] (codes : List String) :
    withCodes schema codes =
      (references schema).filter (fun finding => codes.contains finding.code) ++
        (columnTypes schema).filter (fun finding => codes.contains finding.code) ++
        (primaryKeys schema).filter (fun finding => codes.contains finding.code) ++
        (indexes schema).filter (fun finding => codes.contains finding.code) ++
        (circles schema).filter fun finding => codes.contains finding.code := by
  unfold withCodes full
  simp only [List.filter_append]

/-- There is a finding for each column of an unknown type. -/
theorem withCodes_unsupported [Holding] :
    withCodes schema ["UNSUPPORTED_COLUMN_TYPE"] = schema.tables.flatMap fun table =>
      (table.columns.filter fun column =>
        (ColumnType.ofColumn column schema.dialect).isFallback).map fun column =>
          unsupportedType table column (ColumnType.ofColumn column schema.dialect) := by
  have hgroup : withCodes schema ["UNSUPPORTED_COLUMN_TYPE"] = columnTypes schema := by
    rw [withCodes_eq, filter_code_eq_nil code_of_mem_references (by decide),
      filter_code_eq_self code_of_mem_columnTypes (by decide),
      filter_code_eq_nil code_of_mem_primaryKeys (by decide),
      filter_code_eq_nil code_of_mem_indexes (by decide),
      filter_code_eq_nil code_of_mem_circles (by decide)]
    simp only [List.nil_append, List.append_nil]
  rw [hgroup]
  unfold columnTypes typeFinding
  simp only [filterMap_ite_eq]

/-- There is a finding for each table without a primary key. -/
theorem withCodes_missingKey [Holding] :
    withCodes schema ["MISSING_PRIMARY_KEY", "VIEW_WITHOUT_PRIMARY_KEY"] =
      (schema.tables.filter fun table => table.primaryKeyColumns.isEmpty).map
        missingPrimaryKey := by
  have hgroup : withCodes schema ["MISSING_PRIMARY_KEY", "VIEW_WITHOUT_PRIMARY_KEY"] =
      primaryKeys schema := by
    rw [withCodes_eq, filter_code_eq_nil code_of_mem_references (by decide),
      filter_code_eq_nil code_of_mem_columnTypes (by decide),
      filter_code_eq_self code_of_mem_primaryKeys (by decide),
      filter_code_eq_nil code_of_mem_indexes (by decide),
      filter_code_eq_nil code_of_mem_circles (by decide)]
    simp only [List.nil_append, List.append_nil]
  rw [hgroup]
  exact filterMap_ite_eq _ _ _

/-- There is a finding for each circle. -/
theorem withCodes_circular [Holding] :
    withCodes schema ["CIRCULAR_DEPENDENCY"] =
      (Dependency.findCycles schema.tables).map circle := by
  rw [withCodes_eq, filter_code_eq_nil code_of_mem_references (by decide),
    filter_code_eq_nil code_of_mem_columnTypes (by decide),
    filter_code_eq_nil code_of_mem_primaryKeys (by decide),
    filter_code_eq_nil code_of_mem_indexes (by decide),
    filter_code_eq_self code_of_mem_circles (by decide)]
  rfl

/-- The foreign keys of all tables, each with its table and what it refers to. -/
def allReferences : List (Table × Constraint × ForeignKey) :=
  schema.tables.flatMap fun table => table.constraints.filterMap fun constraint =>
    constraint.target?.map fun target => (table, constraint, target)

/-- Whether a foreign key refers to a table of the schema. -/
def resolves (target : ForeignKey) : Bool :=
  (schema.tables.map Table.key).contains (target.schema, target.table)

theorem table?_eq_none_iff (target : ForeignKey) :
    schema.table? target.schema target.table = none ↔ resolves schema target = false := by
  unfold Schema.table? resolves
  rw [List.find?_eq_none, Bool.eq_false_iff, ne_eq, List.contains_iff_mem, List.mem_map]
  constructor
  · rintro h ⟨table, hmem, hkey⟩
    obtain ⟨howner, hname⟩ := Prod.mk.inj hkey
    exact h table hmem (Bool.and_eq_true_iff.2 ⟨beq_iff_eq.2 howner, beq_iff_eq.2 hname⟩)
  · intro h table hmem hsame
    obtain ⟨howner, hname⟩ := Bool.and_eq_true_iff.1 hsame
    exact h ⟨table, hmem, Prod.ext (eq_of_beq howner) (eq_of_beq hname)⟩

/-- Of the findings about one foreign key, only the one about its table has this code. -/
theorem filter_referenceFinding [Holding] (table : Table) (constraint : Constraint)
    (target : ForeignKey) :
    (referenceFinding schema table constraint target).filter
        (fun finding => ["FK_TARGET_UNRESOLVED"].contains finding.code) =
      ((some (table, constraint, target)).filter fun reference =>
        !resolves schema reference.2.2).map
          fun reference => unresolvedTarget reference.1 reference.2.1 reference.2.2 := by
  unfold referenceFinding
  cases hfound : schema.table? target.schema target.table with
  | none =>
    have hout := (table?_eq_none_iff schema target).1 hfound
    rw [Option.filter_some_pos (by rfl), Option.filter_some_pos (by rw [hout]; rfl)]
    rfl
  | some found =>
    have hin : resolves schema target = true := by
      rw [← Bool.not_eq_false, ← table?_eq_none_iff, hfound]
      exact Option.some_ne_none found
    rw [Option.filter_some_neg (by rw [hin]; rfl)]
    -- a finding about columns may be left, which has another code
    dsimp only
    split
    · rfl
    · exact Option.filter_some_neg rfl

/-- There is a finding for each foreign key whose table is not in the schema. -/
theorem withCodes_unresolved [Holding] :
    withCodes schema ["FK_TARGET_UNRESOLVED"] =
      ((allReferences schema).filter fun reference => !resolves schema reference.2.2).map
        fun reference => unresolvedTarget reference.1 reference.2.1 reference.2.2 := by
  have hgroup : withCodes schema ["FK_TARGET_UNRESOLVED"] =
      (references schema).filter fun finding =>
        ["FK_TARGET_UNRESOLVED"].contains finding.code := by
    rw [withCodes_eq, filter_code_eq_nil code_of_mem_columnTypes (by decide),
      filter_code_eq_nil code_of_mem_primaryKeys (by decide),
      filter_code_eq_nil code_of_mem_indexes (by decide),
      filter_code_eq_nil code_of_mem_circles (by decide)]
    simp only [List.append_nil]
  rw [hgroup]
  unfold references allReferences tableReferences
  rw [List.filter_flatMap, List.filter_flatMap, List.map_flatMap]
  refine List.flatMap_congr fun table _ => ?_
  rw [List.filter_filterMap, List.filter_filterMap, List.map_filterMap]
  refine List.filterMap_congr fun constraint _ => ?_
  cases constraint.target? with
  | none => rfl
  | some target => exact filter_referenceFinding schema table constraint target

end SchemaCodegen.Audit
