import Mathlib.Data.List.Forall2
import SchemaCodegen.Generation
import SchemaCodegen.Proofs.Dependency.TableOrder
import SchemaCodegen.Proofs.Style.Plain

/-!
# Proofs: switches erase

A switch that leaves something out gives the text that the schema gives without it. Comments,
indexes and, for classes, foreign keys and uniqueness constraints are erased from the schema table
by table; a change of that kind goes through the order of the tables, the names and the blocks.
From table assignments the switch for constraints takes away whole arguments. Singular names change
the first lines of classes only, and what is left of the switches changes nothing.
-/

namespace SchemaCodegen

open SchemaCodegen.Text SchemaCodegen.Code SchemaCodegen.Code.Vocabulary

/-! ## Schemas with a part erased -/

/-- The schema with each of its tables changed. -/
def Schema.mapTables (schema : Schema) (change : Table → Table) : Schema :=
  { schema with tables := schema.tables.map change }

/-- The column without its comment. -/
def Column.withoutComment (column : Column) : Column :=
  { column with comment := none }

namespace Table

/-- The table without its comment and those of its columns. -/
def withoutComments (table : Table) : Table :=
  { table with comment := none, columns := table.columns.map Column.withoutComment }

/-- The table without its indexes. -/
def withoutIndexes (table : Table) : Table :=
  { table with indexes := [] }

/-- The table without its foreign keys, its uniqueness constraints, and the indexes that the
database made for a constraint. -/
def withoutReferences (table : Table) : Table :=
  { table with
    constraints := table.constraints.filter fun constraint =>
      !(constraint.isForeignKey || constraint.isUnique)
    indexes := table.indexes.filter fun index => !table.isBacked index }

/-- The table without its conditions on rows. -/
def withoutChecks (table : Table) : Table :=
  { table with constraints := table.constraints.filter fun constraint => constraint.kind != .check }

/-! ## What is left of constraints and indexes -/

/-- A second filter that lets through no more than the first makes the first one needless. -/
theorem filter_filter_of_imp {α : Type} {p q : α → Bool} (h : ∀ a, p a = true → q a = true)
    (as : List α) : (as.filter q).filter p = as.filter p := by
  rw [List.filter_filter]
  refine List.filter_congr fun a _ => ?_
  cases hp : p a with
  | false => rfl
  | true => rw [h a hp]; rfl

/-- The columns of the primary key are those of the first primary key. -/
theorem primaryKeyColumns_congr {t u : Table} (h : t.primaryKeys = u.primaryKeys) :
    t.primaryKeyColumns = u.primaryKeyColumns := by
  unfold primaryKeys at h
  unfold primaryKeyColumns
  rw [← List.head?_filter, ← List.head?_filter, h]

variable (table : Table)

theorem foreignKeys_withoutReferences : table.withoutReferences.foreignKeys = [] := by
  unfold foreignKeys withoutReferences
  rw [List.filter_filter, List.filter_eq_nil_iff]
  intro constraint _
  cases constraint.isForeignKey <;> simp

theorem uniques_withoutReferences : table.withoutReferences.uniques = [] := by
  unfold uniques withoutReferences
  rw [List.filter_filter, List.filter_eq_nil_iff]
  intro constraint _
  cases constraint.isUnique <;> simp

theorem primaryKeys_withoutReferences :
    table.withoutReferences.primaryKeys = table.primaryKeys := by
  refine filter_filter_of_imp (fun constraint h => ?_) table.constraints
  have hkind : constraint.kind = .primaryKey := eq_of_beq h
  simp [Constraint.isForeignKey, Constraint.target?, Constraint.isUnique, hkind]

/-- An index that is backed by a constraint that is left was backed before. -/
theorem isBacked_of_isBacked_withoutReferences {index : Index}
    (h : table.withoutReferences.isBacked index = true) : table.isBacked index = true := by
  unfold isBacked at *
  rw [Bool.and_eq_true, List.any_eq_true] at *
  obtain ⟨hunique, constraint, hmem, hbacks⟩ := h
  exact ⟨hunique, constraint, List.mem_of_mem_filter hmem, hbacks⟩

theorem explicitIndexes_withoutReferences :
    table.withoutReferences.explicitIndexes = table.explicitIndexes := by
  show table.explicitIndexes.filter (fun index => !table.withoutReferences.isBacked index) = _
  rw [List.filter_eq_self]
  intro index hmem
  have hnot : ¬ table.isBacked index = true := by simpa using (List.mem_filter.1 hmem).2
  have hnot' : ¬ table.withoutReferences.isBacked index = true :=
    fun h => hnot (table.isBacked_of_isBacked_withoutReferences h)
  simpa using hnot'

theorem foreignKeys_withoutChecks : table.withoutChecks.foreignKeys = table.foreignKeys := by
  refine filter_filter_of_imp (fun constraint h => ?_) table.constraints
  obtain ⟨target, htarget⟩ := Option.isSome_iff_exists.1 h
  cases hkind : constraint.kind <;> simp_all [Constraint.target?]

/-- Conditions on rows point at no table. -/
theorem referencedKeys_withoutChecks :
    Dependency.referencedKeys table.withoutChecks = Dependency.referencedKeys table := by
  unfold Dependency.referencedKeys withoutChecks
  rw [List.filterMap_filter]
  refine List.filterMap_congr fun constraint _ => ?_
  cases hkind : constraint.kind <;> simp [Constraint.target?, hkind]

theorem uniques_withoutChecks : table.withoutChecks.uniques = table.uniques := by
  refine filter_filter_of_imp (fun constraint h => ?_) table.constraints
  have hkind : constraint.kind = .unique := eq_of_beq h
  simp [hkind]

theorem primaryKeys_withoutChecks : table.withoutChecks.primaryKeys = table.primaryKeys := by
  refine filter_filter_of_imp (fun constraint h => ?_) table.constraints
  have hkind : constraint.kind = .primaryKey := eq_of_beq h
  simp [hkind]

/-- No condition on rows backs an index. -/
theorem isBacked_withoutChecks (index : Index) :
    table.withoutChecks.isBacked index = table.isBacked index := by
  unfold isBacked withoutChecks
  rw [List.any_filter]
  congr 2
  funext constraint
  obtain ⟨name, kind, columns⟩ := constraint
  cases kind <;> rfl

end Table

/-! ## Columns without comments -/

theorem ColumnType.Postgresql.elementType_withoutComment (column : Column) (name : List Char) :
    elementType column.withoutComment name = elementType column name := by
  induction name with
  | nil => rfl
  | cons c rest ih =>
    rw [elementType, elementType, ih]
    rfl

/-- The type of a column does not depend on its comment. -/
theorem ColumnType.ofColumn_withoutComment (column : Column) (dialect : Dialect) :
    ofColumn column.withoutComment dialect = ofColumn column dialect := by
  cases dialect with
  | postgresql =>
    rw [ofColumn, ofColumn, Postgresql.ofColumn, Postgresql.ofColumn,
      Postgresql.elementType_withoutComment]
    rfl
  | mssql => rfl

/-! ## Classes -/

namespace Declarative

/-- Names and order of the classes are those of the tables, so a change of the tables goes through
to the classes one by one. -/
theorem classes_mapTables (change : Table → Table) {on off : Options}
    (hname : ∀ table, (change table).name = table.name)
    {schema : Schema}
    (hclass : ∀ table name, classOf schema.dialect off (change table) name =
      classOf schema.dialect on table name)
    (hsingular : off.useSingular = on.useSingular) :
    classes (schema.mapTables change) off = classes schema on := by
  have hnames : classNames (schema.mapTables change) off = classNames schema on := by
    unfold classNames Schema.mapTables
    rw [List.map_map, hsingular]
    simp only [Function.comp_def, hname]
  unfold classes
  rw [hnames]
  show List.zipWith (classOf schema.dialect off) (schema.tables.map change) _ = _
  rw [List.zipWith_map_left]
  congr 1
  funext table name
  exact hclass table name

variable (dialect : Dialect) (options : Options) (table : Table) (name : String)

theorem attributesOf_withoutComments :
    attributesOf table.withoutComments dialect { options with noComments := false } =
      attributesOf table dialect { options with noComments := true } := by
  have hnames : attributeNames table.withoutComments = attributeNames table := by
    unfold attributeNames Table.withoutComments
    rw [List.map_map]
    rfl
  unfold attributesOf
  rw [hnames]
  show List.zipWith _ (table.columns.map Column.withoutComment) _ = _
  rw [List.zipWith_map_left]
  congr 1
  funext column label
  simp only [attributeOf, columnArguments, ColumnType.ofColumn_withoutComment]
  rfl

theorem classOf_withoutComments :
    classOf dialect { options with noComments := false } table.withoutComments name =
      classOf dialect { options with noComments := true } table name := by
  unfold classOf
  rw [attributesOf_withoutComments]
  rfl

theorem classOf_withoutIndexes :
    classOf dialect { options with noIndexes := false } table.withoutIndexes name =
      classOf dialect { options with noIndexes := true } table name :=
  rfl

theorem classOf_withoutReferences :
    classOf dialect { options with noConstraints := false } table.withoutReferences name =
      classOf dialect { options with noConstraints := true } table name := by
  have hkey : ∀ column, table.withoutReferences.isPrimaryColumn column =
      table.isPrimaryColumn column := by
    intro column
    unfold Table.isPrimaryColumn
    rw [Table.primaryKeyColumns_congr table.primaryKeys_withoutReferences]
  have hattributes :
      attributesOf table.withoutReferences dialect { options with noConstraints := false } =
        attributesOf table dialect { options with noConstraints := true } := by
    unfold attributesOf
    congr 1
    funext column label
    simp only [attributeOf, columnHint, columnArguments, referenceArgument, primaryKeyArgument,
      uniqueArgument, Table.columnForeignKey?, Table.isUniqueColumn, hkey,
      table.foreignKeys_withoutReferences, table.uniques_withoutReferences]
    rfl
  have hargs : tableArgs table.withoutReferences dialect { options with noConstraints := false } =
      tableArgs table dialect { options with noConstraints := true } := by
    simp only [tableArgs, constraintArguments, indexArguments, table.foreignKeys_withoutReferences,
      table.uniques_withoutReferences, table.explicitIndexes_withoutReferences]
    rfl
  unfold classOf
  rw [hattributes, hargs]
  rfl

theorem classOf_withoutChecks :
    classOf dialect options table.withoutChecks name = classOf dialect options table name := by
  have hkey := Table.primaryKeyColumns_congr table.primaryKeys_withoutChecks
  have hattributes : attributesOf table.withoutChecks dialect options =
      attributesOf table dialect options := by
    unfold attributesOf
    congr 1
    funext column label
    simp only [attributeOf, columnHint, columnArguments, referenceArgument, primaryKeyArgument,
      uniqueArgument, Table.columnForeignKey?, Table.isUniqueColumn, Table.isPrimaryColumn, hkey,
      table.foreignKeys_withoutChecks, table.uniques_withoutChecks]
    rfl
  have hargs : tableArgs table.withoutChecks dialect options = tableArgs table dialect options := by
    simp only [tableArgs, constraintArguments, indexArguments, Table.explicitIndexes,
      Table.isColumnLevel, Table.columnForeignKey?, table.foreignKeys_withoutChecks,
      table.uniques_withoutChecks, table.isBacked_withoutChecks]
    rfl
  unfold classOf
  rw [hattributes, hargs]
  rfl

end Declarative

/-! ## Table assignments -/

namespace TableObjects

/-- Variables and order of the assignments are those of the tables in dependency order, so a change
that keeps names and references goes through to the assignments one by one. -/
theorem blocks_mapTables (change : Table → Table) {on off : Options}
    (hkey : ∀ table, (change table).key = table.key)
    (hreferenced : ∀ table,
      Dependency.referencedKeys (change table) = Dependency.referencedKeys table)
    {schema : Schema}
    (hblock : ∀ table name, blockOf schema.dialect off (change table) name =
      blockOf schema.dialect on table name) :
    blocks (schema.mapTables change) off = blocks schema on := by
  have hsort : Dependency.sortTables (schema.mapTables change).tables =
      (Dependency.sortTables schema.tables).map change :=
    Dependency.sortTables_map hkey hreferenced schema.tables
  have hname : ∀ table, (change table).name = table.name :=
    fun table => congrArg Prod.snd (hkey table)
  have hnames : variableNames ((Dependency.sortTables schema.tables).map change) =
      variableNames (Dependency.sortTables schema.tables) := by
    unfold variableNames
    rw [List.map_map]
    simp only [Function.comp_def, hname]
  unfold blocks
  rw [hsort]
  dsimp only
  rw [hnames, List.zipWith_map_left]
  congr 1
  funext table name
  exact hblock table name

variable (dialect : Dialect) (options : Options) (table : Table) (name : String)

theorem blockOf_withoutComments :
    blockOf dialect { options with noComments := false } table.withoutComments name =
      blockOf dialect { options with noComments := true } table name := by
  have hcolumns : table.withoutComments.columns.map
        (columnItem table.withoutComments dialect { options with noComments := false }) =
      table.columns.map (columnItem table dialect { options with noComments := true }) := by
    unfold Table.withoutComments
    rw [List.map_map]
    refine List.map_congr_left fun column _ => ?_
    simp only [Function.comp_apply, columnItem, columnArguments, ColumnType.ofColumn_withoutComment]
    rfl
  unfold blockOf itemsOf
  rw [hcolumns]
  rfl

theorem blockOf_withoutIndexes :
    blockOf dialect { options with noIndexes := false } table.withoutIndexes name =
      blockOf dialect { options with noIndexes := true } table name :=
  rfl

theorem blockOf_withoutChecks :
    blockOf dialect options table.withoutChecks name = blockOf dialect options table name := by
  have hkey := Table.primaryKeyColumns_congr table.primaryKeys_withoutChecks
  have hcolumn :
      columnItem table.withoutChecks dialect options = columnItem table dialect options := by
    funext column
    simp only [columnItem, columnArguments, keyArgument, Table.isPrimaryColumn, hkey]
    rfl
  unfold blockOf itemsOf
  rw [hcolumn]
  simp only [constraintItems, indexItems, Table.explicitIndexes, table.foreignKeys_withoutChecks,
    table.primaryKeys_withoutChecks, table.uniques_withoutChecks, table.isBacked_withoutChecks]
  rfl

end TableObjects

/-! ## Table assignments without constraints -/

/-- The names of the constraints that a table assignment lists. -/
def constraintKinds : List String :=
  ["ForeignKeyConstraint", "PrimaryKeyConstraint", "UniqueConstraint"]

/-- Whether an argument of a table assignment is a constraint. -/
def Code.Expr.isConstraint : Expr → Bool
  | .call callee _ => constraintKinds.contains callee.name
  | _ => false

/-- The assignment without the arguments that are constraints. -/
def Code.TableBlock.withoutConstraints (block : TableBlock) : TableBlock :=
  { block with items := block.items.filter fun item => !item.isConstraint }

namespace TableObjects

/-- The module that is made of the given assignments. -/
def moduleOf (assignments : List TableBlock) : Code.Module :=
  { imports := Imports.ofSymbols (fixedSymbols ++ assignments.flatMap TableBlock.symbols)
    preamble := ["metadata = MetaData()"]
    blocks := assignments.map TableBlock.lines }

variable (dialect : Dialect) (options : Options) (table : Table) (name : String)

theorem isConstraint_of_mem_constraintItems :
    ∀ item ∈ constraintItems table dialect options, item.isConstraint = true := by
  intro item hitem
  rcases cases_of_mem_constraintItems hitem with
    ⟨constraint, target, rfl⟩ | ⟨constraint, rfl⟩ | ⟨constraint, rfl⟩
  · rfl
  · rfl
  · rfl

/-- The arguments of a table that are no constraints are its columns, its indexes, its comment and
its schema. -/
theorem filter_itemsOf :
    (itemsOf table dialect options).filter (fun item => !item.isConstraint) =
      table.columns.map (columnItem table dialect options) ++ indexItems table options ++
        commentArguments table.comment options ++ schemaItems table dialect := by
  have hcolumns : ∀ item ∈ table.columns.map (columnItem table dialect options),
      (!item.isConstraint) = true := by
    intro item hitem
    obtain ⟨column, rfl⟩ := exists_of_mem_columns hitem
    rfl
  have hconstraints : ∀ item ∈ constraintItems table dialect options,
      ¬ (!item.isConstraint) = true := by
    intro item hitem
    rw [isConstraint_of_mem_constraintItems dialect options table item hitem]
    decide
  have hindexes : ∀ item ∈ indexItems table options, (!item.isConstraint) = true := by
    intro item hitem
    obtain ⟨index, rfl⟩ := exists_of_mem_indexItems hitem
    rfl
  have hcomments : ∀ item ∈ commentArguments table.comment options,
      (!item.isConstraint) = true := by
    intro item hitem
    obtain ⟨comment, rfl⟩ := exists_of_mem_commentArguments hitem
    rfl
  have hschema : ∀ item ∈ schemaItems table dialect, (!item.isConstraint) = true := by
    intro item hitem
    obtain ⟨owner, rfl⟩ := exists_of_mem_schemaItems hitem
    rfl
  unfold itemsOf
  simp only [List.filter_append]
  rw [List.filter_eq_self.2 hcolumns, List.filter_eq_nil_iff.2 hconstraints,
    List.filter_eq_self.2 hindexes, List.filter_eq_self.2 hcomments, List.filter_eq_self.2 hschema,
    List.append_nil]

theorem blockOf_noConstraints :
    blockOf dialect { options with noConstraints := true } table name =
      (blockOf dialect { options with noConstraints := false } table name).withoutConstraints := by
  unfold TableBlock.withoutConstraints blockOf
  dsimp only
  rw [filter_itemsOf]
  unfold itemsOf constraintItems
  rw [if_pos rfl, List.append_nil]
  rfl

/-- Without constraints the assignments are the same, in the same order and under the same names,
and each lacks the arguments that are constraints. -/
theorem blocks_noConstraints (schema : Schema) :
    blocks schema { options with noConstraints := true } =
      (blocks schema { options with noConstraints := false }).map
        TableBlock.withoutConstraints := by
  unfold blocks
  dsimp only
  rw [List.map_zipWith]
  congr 1
  funext table name
  exact blockOf_noConstraints schema.dialect options table name

end TableObjects

/-! ## Singular class names -/

/-- Two lines that are the same or begin a class each. -/
def SameButClassName (a b : List Char) : Prop :=
  a = b ∨ ∃ m n : String,
    a = ("class " ++ m ++ "(Base):").toList ∧ b = ("class " ++ n ++ "(Base):").toList

/-- Two blocks that differ in nothing but the name of the class. -/
def Code.ClassBlock.SameButName (a b : ClassBlock) : Prop :=
  a.table = b.table ∧ a.tableArgs = b.tableArgs ∧ a.attributes = b.attributes

theorem forall₂_zipWith {α β γ : Type} {r : γ → γ → Prop} {f g : α → β → γ}
    (h : ∀ a b c, r (f a b) (g a c)) {as : List α} {bs cs : List β}
    (hlength : bs.length = cs.length) :
    List.Forall₂ r (List.zipWith f as bs) (List.zipWith g as cs) := by
  induction as generalizing bs cs with
  | nil => exact .nil
  | cons a as ih =>
    cases bs with
    | nil =>
      cases cs with
      | nil => exact .nil
      | cons c cs => cases hlength
    | cons b bs =>
      cases cs with
      | nil => cases hlength
      | cons c cs => exact .cons (h a b c) (ih (Nat.succ.inj hlength))

theorem forall₂_intercalate {α : Type} {r : α → α → Prop} {separator : List α}
    (hs : List.Forall₂ r separator separator) {as bs : List (List α)}
    (h : List.Forall₂ (List.Forall₂ r) as bs) :
    List.Forall₂ r (separator.intercalate as) (separator.intercalate bs) := by
  induction h with
  | nil => exact .nil
  | cons hab htail ih =>
    cases htail with
    | nil => simpa using hab
    | cons hnext hrest =>
      rw [List.intercalate_cons_cons, List.intercalate_cons_cons]
      exact List.rel_append (List.rel_append hab hs) ih

theorem sameButClassName_refl (line : List Char) : SameButClassName line line :=
  Or.inl rfl

theorem forall₂_sameButClassName_refl (lines : List String) :
    List.Forall₂ (fun a b => SameButClassName a.toList b.toList) lines lines :=
  List.forall₂_same.2 fun line _ => sameButClassName_refl line.toList

/-- Classes that differ in their names alone have the same lines but for the first ones. -/
theorem Code.ClassBlock.SameButName.lines {a b : ClassBlock} (h : a.SameButName b) :
    List.Forall₂ (fun a b => SameButClassName a.toList b.toList) a.lines b.lines := by
  obtain ⟨htable, hargs, hattributes⟩ := h
  have hrest := forall₂_sameButClassName_refl
    ((indent ++ "__tablename__ = " ++ quote a.table) :: (a.argsLines ++ a.attributeLines))
  have hargsLines : b.argsLines = a.argsLines := by
    unfold ClassBlock.argsLines
    rw [hargs]
  have hattributeLines : b.attributeLines = a.attributeLines := by
    unfold ClassBlock.attributeLines
    rw [hattributes]
  unfold ClassBlock.lines
  rw [hargsLines, hattributeLines, ← htable]
  exact .cons (Or.inr ⟨a.name, b.name, rfl, rfl⟩) hrest

/-- Names of classes are no symbols, so such classes need the same imports. -/
theorem Code.ClassBlock.flatMap_symbols_congr {as bs : List ClassBlock}
    (h : List.Forall₂ SameButName as bs) :
    as.flatMap ClassBlock.symbols = bs.flatMap ClassBlock.symbols := by
  induction h with
  | nil => rfl
  | cons hab _ ih =>
    obtain ⟨_, hargs, hattributes⟩ := hab
    rw [List.flatMap_cons, List.flatMap_cons, ih]
    unfold ClassBlock.symbols ClassBlock.argsSymbols
    rw [hargs, hattributes]

/-- The classes with singular names are the classes under other names. -/
theorem Declarative.sameButName_classes (schema : Schema) (options : Options) :
    List.Forall₂ ClassBlock.SameButName (classes schema { options with useSingular := true })
      (classes schema { options with useSingular := false }) := by
  refine forall₂_zipWith (fun table m n => ⟨rfl, rfl, rfl⟩) ?_
  rw [length_classNames, length_classNames]

/-- The modules with and without singular names have the same lines but for the first lines of
classes. -/
theorem Declarative.sameButClassName_lines (schema : Schema) (options : Options) :
    List.Forall₂ (fun a b => SameButClassName a.toList b.toList)
      (toModule schema { options with useSingular := true }).lines
      (toModule schema { options with useSingular := false }).lines := by
  have hclasses := sameButName_classes schema options
  have hsymbols := ClassBlock.flatMap_symbols_congr hclasses
  refine forall₂_intercalate (forall₂_sameButClassName_refl [""]) ?_
  unfold Module.sections toModule
  dsimp only
  rw [hsymbols]
  refine .cons (forall₂_sameButClassName_refl _) (.cons (forall₂_sameButClassName_refl _) ?_)
  exact List.forall₂_map_left_iff.2 (List.forall₂_map_right_iff.2
    (hclasses.imp fun _ _ h => h.lines))

/-! ## All switches -/

/-- What the switches of the generator do to the text of a schema, whatever the other switches are.
A switch that leaves something out gives the text of the schema without it. -/
structure SwitchesErase [Holding] (schema : Schema) (options : Options) : Prop where
  /-- No comments: the schema without the comments on tables and columns. -/
  comments : ∀ style, (generate style schema { options with noComments := true }).output =
    (generate style (schema.mapTables Table.withoutComments)
      { options with noComments := false }).output
  /-- No indexes: the schema without the indexes of its tables. -/
  indexes : ∀ style, (generate style schema { options with noIndexes := true }).output =
    (generate style (schema.mapTables Table.withoutIndexes)
      { options with noIndexes := false }).output
  /-- No constraints on classes: the schema without foreign keys, uniqueness constraints, and the
  indexes that the database made for a constraint. -/
  references :
    (generate .declarative schema { options with noConstraints := true }).output =
      (generate .declarative (schema.mapTables Table.withoutReferences)
        { options with noConstraints := false }).output
  /-- No constraints on table assignments: these stand in the same order under the same names, and
  lack the constraints among their arguments and nothing else. -/
  constraints :
    (generate .tables schema { options with noConstraints := true }).output =
      (TableObjects.moduleOf ((TableObjects.blocks schema
        { options with noConstraints := false }).map TableBlock.withoutConstraints)).render ∧
    (generate .tables schema { options with noConstraints := false }).output =
      (TableObjects.moduleOf (TableObjects.blocks schema
        { options with noConstraints := false })).render
  /-- Singular names change the first lines of classes and no other line. -/
  classNames : List.Forall₂ SameButClassName
    (linesOf (generate .declarative schema { options with useSingular := true }).output.toList)
    (linesOf (generate .declarative schema { options with useSingular := false }).output.toList)
  /-- Singular names change nothing in the other style. -/
  assignments : (generate .tables schema { options with useSingular := true }).output =
    (generate .tables schema { options with useSingular := false }).output
  /-- The switch for joined tables changes nothing. -/
  joined : ∀ style, (generate style schema { options with noJoined := true }).output =
    (generate style schema { options with noJoined := false }).output
  /-- Neither does the switch for relationships. -/
  bidirectional : ∀ style, (generate style schema { options with noBidirectional := true }).output =
    (generate style schema { options with noBidirectional := false }).output
  /-- Conditions on rows leave no trace. -/
  checks : ∀ style, (generate style schema options).output =
    (generate style (schema.mapTables Table.withoutChecks) options).output

/-- A change of tables that keeps names and references, and makes up for a switch in each class and
each assignment, gives the text that the switch gives. -/
theorem output_mapTables [Holding] (change : Table → Table) {on off : Options}
    (hkey : ∀ table, (change table).key = table.key)
    (hreferenced : ∀ table,
      Dependency.referencedKeys (change table) = Dependency.referencedKeys table)
    {schema : Schema}
    (hclass : ∀ table name, Declarative.classOf schema.dialect off (change table) name =
      Declarative.classOf schema.dialect on table name)
    (hblock : ∀ table name, TableObjects.blockOf schema.dialect off (change table) name =
      TableObjects.blockOf schema.dialect on table name)
    (hsingular : off.useSingular = on.useSingular) (style : Style) :
    (generate style schema on).output = (generate style (schema.mapTables change) off).output := by
  cases style with
  | declarative =>
    have hname : ∀ table, (change table).name = table.name :=
      fun table => congrArg Prod.snd (hkey table)
    have hclasses := Declarative.classes_mapTables change hname hclass hsingular
    show (Declarative.toModule schema on).render = (Declarative.toModule _ off).render
    unfold Declarative.toModule
    rw [hclasses]
  | tables =>
    have hblocks := TableObjects.blocks_mapTables change hkey hreferenced hblock
    show (TableObjects.toModule schema on).render = (TableObjects.toModule _ off).render
    unfold TableObjects.toModule
    rw [hblocks]

theorem switchesErase [Holding] (schema : Schema) (options : Options) :
    SwitchesErase schema options := by
  refine { comments := ?_, indexes := ?_, references := ?_, constraints := ?_, classNames := ?_,
           assignments := rfl, joined := ?_, bidirectional := ?_, checks := ?_ }
  · -- comments
    exact output_mapTables Table.withoutComments (fun _ => rfl) (fun _ => rfl)
      (Declarative.classOf_withoutComments schema.dialect options)
      (TableObjects.blockOf_withoutComments schema.dialect options) rfl
  · -- indexes
    exact output_mapTables Table.withoutIndexes (fun _ => rfl) (fun _ => rfl)
      (Declarative.classOf_withoutIndexes schema.dialect options)
      (TableObjects.blockOf_withoutIndexes schema.dialect options) rfl
  · -- references
    have hclasses : Declarative.classes (schema.mapTables Table.withoutReferences)
        { options with noConstraints := false } =
        Declarative.classes schema { options with noConstraints := true } :=
      Declarative.classes_mapTables Table.withoutReferences (fun _ => rfl)
        (Declarative.classOf_withoutReferences schema.dialect options) rfl
    show (Declarative.toModule schema _).render = (Declarative.toModule _ _).render
    unfold Declarative.toModule
    rw [hclasses]
  · -- constraints
    refine ⟨?_, rfl⟩
    rw [← TableObjects.blocks_noConstraints]
    rfl
  · -- classNames
    have hlines : ∀ options, linesOf (generate .declarative schema options).output.toList =
        (Declarative.toModule schema options).lines.map String.toList :=
      fun options => Module.linesOf_render (Declarative.isSection_of_mem_sections schema options)
    rw [hlines, hlines]
    exact List.forall₂_map_left_iff.2 (List.forall₂_map_right_iff.2
      (Declarative.sameButClassName_lines schema options))
  · -- joined
    intro style
    cases style <;> rfl
  · -- bidirectional
    intro style
    cases style <;> rfl
  · -- checks
    exact output_mapTables Table.withoutChecks (fun _ => rfl) Table.referencedKeys_withoutChecks
      (Declarative.classOf_withoutChecks schema.dialect options)
      (TableObjects.blockOf_withoutChecks schema.dialect options) rfl

end SchemaCodegen
