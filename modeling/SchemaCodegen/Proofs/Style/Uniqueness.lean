import SchemaCodegen.Proofs.Style.Columns

/-!
# Proofs: which uniqueness generated code declares

Generated code declares uniqueness in several ways: by a mark on a column, by the columns of the
primary key, by a constraint or by an index. An index that the database made for a constraint is
left out, because the constraint declares the same. A table assignment states every constraint, so
this loses nothing. A class states the first primary key only, on its columns: where a table has
several, an index that the database made for one of the others is lost.
-/

namespace SchemaCodegen

open SchemaCodegen.Text SchemaCodegen.Code SchemaCodegen.Code.Vocabulary

/-! ## Keys in code -/

namespace Code

/-- The same names, in whatever order and however often. -/
def SameNames (names others : List String) : Prop :=
  (∀ name ∈ names, name ∈ others) ∧ ∀ name ∈ others, name ∈ names

instance (names others : List String) : Decidable (SameNames names others) :=
  inferInstanceAs (Decidable (_ ∧ _))

/-- One of the keys has exactly the columns. -/
def Declares (keys : List (List String)) (columns : List String) : Prop :=
  ∃ key ∈ keys, SameNames key columns

instance (keys : List (List String)) (columns : List String) : Decidable (Declares keys columns) :=
  inferInstanceAs (Decidable (∃ key ∈ keys, _))

namespace Expr

/-- The literals among arguments. -/
def texts (es : List Expr) : List String :=
  es.filterMap fun
    | .literal text => some text
    | _ => none

/-- Whether the argument switches the keyword on. -/
def isFlag (keyword : String) : Expr → Bool
  | .keyword name (.truth true) => name == keyword
  | _ => false

/-- The columns of a key that is stated as a constraint. -/
def constraintColumns? (e : Expr) : Option (List String) :=
  if e.calls "UniqueConstraint" || e.calls "PrimaryKeyConstraint" then some (texts e.args) else none

/-- The columns of a unique index, which follow its name. -/
def uniqueIndexColumns? (e : Expr) : Option (List String) :=
  if e.calls "Index" && e.args.any (isFlag "unique") then some (texts (e.args.drop 1)) else none

end Expr

/-- The columns that have the keyword switched on. -/
def flagged (keyword : String) (columns : List (String × List Expr)) : List String :=
  (columns.filter fun column => column.2.any (Expr.isFlag keyword)).map Prod.fst

/-- The keys that columns, each with its arguments, and constraints among the items declare: a
column that is unique by itself, the columns of the primary key, the columns of a constraint. -/
def keysOf (columns : List (String × List Expr)) (items : List Expr) : List (List String) :=
  (flagged "unique" columns).map (fun column => [column]) ++ [flagged "primary_key" columns] ++
    items.filterMap Expr.constraintColumns?

/-- The column of an attribute: the literal that comes first, or else the name of the attribute. -/
def Attribute.column (a : Attribute) : String :=
  match a.value.args with
  | .literal text :: _ => text
  | _ => a.name

namespace ClassBlock

/-- The columns of a class, each with its arguments. -/
def columns (block : ClassBlock) : List (String × List Expr) :=
  block.attributes.map fun a => (a.column, a.value.args)

/-- The keys that a class declares on columns and by constraints. -/
def constraintKeys (block : ClassBlock) : List (List String) :=
  keysOf block.columns block.items

/-- The keys that a class declares by indexes. -/
def indexKeys (block : ClassBlock) : List (List String) :=
  block.items.filterMap Expr.uniqueIndexColumns?

end ClassBlock

namespace TableBlock

/-- The keys that an assignment declares on columns and by constraints. -/
def constraintKeys (block : TableBlock) : List (List String) :=
  keysOf (block.columns.map fun item => ((Expr.texts item.args).headD "", item.args)) block.items

/-- The keys that an assignment declares by indexes. -/
def indexKeys (block : TableBlock) : List (List String) :=
  block.items.filterMap Expr.uniqueIndexColumns?

end TableBlock

end Code

/-! ## The rule -/

/-- The columns are those of the first primary key or of a uniqueness constraint. -/
def Table.IsStatedKey (table : Table) (columns : List String) : Prop :=
  SameNames table.primaryKeyColumns columns ∨
    ∃ constraint ∈ table.uniques, constraint.columns ≠ [] ∧ SameNames constraint.columns columns

/-- The uniqueness of a table that code declares, given which columns it covers by constraints. -/
structure KeepsUniqueness (table : Table) (covers : List String → Prop)
    (constraintKeys indexKeys : List (List String)) : Prop where
  /-- Every uniqueness constraint that has columns is declared. -/
  constraints : ∀ constraint ∈ table.uniques, constraint.columns ≠ [] →
    Declares constraintKeys constraint.columns
  /-- So is every unique index that no constraint stands behind, as an index. -/
  indexes : ∀ index ∈ table.indexes, index.unique = true → table.isBacked index = false →
    Declares indexKeys index.columns
  /-- An index that a constraint stands behind is covered by a declared constraint exactly if its
  columns are covered. -/
  backed : ∀ index ∈ table.indexes, table.isBacked index = true →
    (Declares constraintKeys index.columns ↔ covers index.columns)

/-! ## Reading keys back -/

namespace Code

theorem SameNames.refl (names : List String) : SameNames names names :=
  ⟨fun _ h => h, fun _ h => h⟩

theorem SameNames.congr_left {names others columns : List String} (h : SameNames names others) :
    SameNames names columns ↔ SameNames others columns := by
  constructor
  · exact fun hs => ⟨fun name hname => hs.1 name (h.2 name hname),
      fun name hname => h.1 name (hs.2 name hname)⟩
  · exact fun hs => ⟨fun name hname => hs.1 name (h.1 name hname),
      fun name hname => h.2 name (hs.2 name hname)⟩

theorem declares_keysOf {columns : List (String × List Expr)} {items : List Expr}
    {names : List String} :
    Declares (keysOf columns items) names ↔
      (∃ column ∈ flagged "unique" columns, SameNames [column] names) ∨
        SameNames (flagged "primary_key" columns) names ∨
        Declares (items.filterMap Expr.constraintColumns?) names := by
  unfold Declares keysOf
  simp only [List.mem_append, List.mem_map, List.mem_singleton, or_and_right, exists_or,
    exists_eq_left, or_assoc]
  simp

namespace Expr

theorem texts_append (es fs : List Expr) : texts (es ++ fs) = texts es ++ texts fs :=
  List.filterMap_append

theorem texts_literals (names : List String) : texts (literals names) = names := by
  induction names with
  | nil => rfl
  | cons name names ih => exact congrArg (name :: ·) ih

theorem constraintColumns?_columnsConstraint {kind : String} (constraint : Constraint)
    (h : (kind == "UniqueConstraint" || kind == "PrimaryKeyConstraint") = true) :
    (columnsConstraint kind constraint).constraintColumns? = some constraint.columns := by
  have htexts : texts (literals constraint.columns ++ [named constraint.name]) =
      constraint.columns := by
    rw [texts_append, texts_literals]
    exact List.append_nil _
  exact (if_pos h).trans (congrArg some htexts)

theorem isFlag_literals (keyword : String) (names : List String) :
    (literals names).any (isFlag keyword) = false := by
  rw [List.any_eq_false]
  exact List.forall_mem_map.2 fun _ _ => Bool.false_ne_true

theorem uniqueIndexColumns?_indexDeclaration (index : Index) :
    (indexDeclaration index).uniqueIndexColumns? =
      if index.unique then some index.columns else none := by
  have htexts : texts (literals index.columns ++
      if index.unique then [flag "unique"] else []) = index.columns := by
    rw [texts_append, texts_literals]
    by_cases hunique : index.unique = true
    · rw [if_pos hunique]
      exact List.append_nil _
    · rw [if_neg hunique]
      exact List.append_nil _
  have hflag : (indexDeclaration index).args.any (isFlag "unique") = index.unique := by
    show (.literal index.name :: literals index.columns ++
      if index.unique then [flag "unique"] else []).any (isFlag "unique") = _
    rw [List.any_append, List.any_cons, isFlag_literals]
    cases index.unique <;> rfl
  unfold uniqueIndexColumns?
  rw [hflag]
  exact congrArg (fun columns => if index.unique then some columns else none) htexts

/-- An expression that is neither a key nor an index. -/
structure IsNoKey (e : Expr) : Prop where
  /-- It is no key. -/
  constraint : e.constraintColumns? = none
  /-- It is no unique index. -/
  index : e.uniqueIndexColumns? = none

theorem filterMap_constraintColumns?_eq_nil {es : List Expr} (h : ∀ e ∈ es, e.IsNoKey) :
    es.filterMap constraintColumns? = [] :=
  List.filterMap_eq_nil_iff.2 fun e he => (h e he).constraint

theorem filterMap_uniqueIndexColumns?_eq_nil {es : List Expr} (h : ∀ e ∈ es, e.IsNoKey) :
    es.filterMap uniqueIndexColumns? = [] :=
  List.filterMap_eq_nil_iff.2 fun e he => (h e he).index

end Expr

section Parts

variable {dialect : Dialect} {options : Options}

theorem isNoKey_of_mem_foreignKeys {constraints : List Constraint} :
    ∀ e ∈ constraints.filterMap (foreignKeyConstraint? dialect), e.IsNoKey := by
  intro e he
  obtain ⟨constraint, target, rfl⟩ := exists_of_mem_foreignKeys he
  exact ⟨rfl, rfl⟩

theorem isNoKey_of_mem_commentArguments {comment : Option String} :
    ∀ e ∈ commentArguments comment options, e.IsNoKey := by
  intro e he
  obtain ⟨text, rfl⟩ := exists_of_mem_commentArguments he
  exact ⟨rfl, rfl⟩

theorem filterMap_constraintColumns?_map {kind : String}
    (h : (kind == "UniqueConstraint" || kind == "PrimaryKeyConstraint") = true)
    (constraints : List Constraint) :
    (constraints.map (columnsConstraint kind)).filterMap Expr.constraintColumns? =
      constraints.map Constraint.columns := by
  rw [List.filterMap_map]
  exact List.filterMap_eq_map_iff_forall_eq_some.2 fun constraint _ =>
    Expr.constraintColumns?_columnsConstraint constraint h

theorem filterMap_uniqueIndexColumns?_indexes (indexes : List Index) :
    (indexes.map indexDeclaration).filterMap Expr.uniqueIndexColumns? =
      (indexes.filter Index.unique).map Index.columns := by
  induction indexes with
  | nil => rfl
  | cons index indexes ih =>
    rw [List.map_cons, List.filterMap_cons, Expr.uniqueIndexColumns?_indexDeclaration, ih]
    by_cases hunique : index.unique = true
    · simp [hunique]
    · simp [hunique]

end Parts

end Code

theorem Table.WellFormed.mem_columnNames_of_primaryKey {table : Table} (h : table.WellFormed) :
    ∀ column ∈ table.primaryKeyColumns, column ∈ table.columnNames := by
  unfold Table.primaryKeyColumns
  split
  · next key hkey => exact h.constraint_columns key (List.mem_of_find?_eq_some hkey)
  · exact List.forall_mem_nil _

/-! ## Keys of a class -/

namespace Declarative

variable {dialect : Dialect} {options : Options} {table : Table}

theorem isNoKey_of_mem_keywordArguments :
    ∀ e ∈ keywordArguments table dialect options, e.IsNoKey := by
  intro e he
  obtain ⟨entries, rfl⟩ := exists_of_mem_keywordArguments he
  exact ⟨rfl, rfl⟩

theorem constraintColumns_items (hon : options.noConstraints = false) (name : String) :
    (classOf dialect options table name).items.filterMap Expr.constraintColumns? =
      (table.uniques.filter fun constraint => 1 < constraint.columns.length).map
        Constraint.columns := by
  have hindexes : (indexArguments table options).filterMap Expr.constraintColumns? = [] := by
    refine List.filterMap_eq_nil_iff.2 fun e he => ?_
    obtain ⟨index, rfl⟩ := exists_of_mem_indexArguments he
    rfl
  rw [items_classOf, List.filterMap_append, List.filterMap_append, hindexes,
    Expr.filterMap_constraintColumns?_eq_nil isNoKey_of_mem_keywordArguments]
  unfold constraintArguments
  rw [hon, if_neg Bool.false_ne_true, List.filterMap_append,
    Expr.filterMap_constraintColumns?_eq_nil isNoKey_of_mem_foreignKeys]
  simp only [List.nil_append, List.append_nil]
  exact filterMap_constraintColumns?_map rfl _

theorem indexKeys_classOf (hon : options.noIndexes = false) (name : String) :
    (classOf dialect options table name).indexKeys =
      (table.explicitIndexes.filter Index.unique).map Index.columns := by
  have hconstraints : (constraintArguments table dialect options).filterMap
      Expr.uniqueIndexColumns? = [] := by
    refine List.filterMap_eq_nil_iff.2 fun e he => ?_
    rcases cases_of_mem_constraintArguments he with ⟨constraint, target, rfl⟩ | ⟨constraint, rfl⟩
    · rfl
    · rfl
  unfold ClassBlock.indexKeys
  rw [items_classOf, List.filterMap_append, List.filterMap_append, hconstraints,
    Expr.filterMap_uniqueIndexColumns?_eq_nil isNoKey_of_mem_keywordArguments]
  unfold indexArguments
  rw [hon, if_neg Bool.false_ne_true, List.nil_append, List.append_nil]
  exact filterMap_uniqueIndexColumns?_indexes _

/-- Only the primary key and uniqueness switch something on. -/
theorem any_isFlag_columnArguments (keyword : String) (column : Column) (label : String) :
    (columnArguments table column label dialect options).any (Expr.isFlag keyword) =
      ((primaryKeyArgument table column).any (Expr.isFlag keyword) ||
        (uniqueArgument table column options).any (Expr.isFlag keyword)) := by
  have hname : (nameArgument column label).any (Expr.isFlag keyword) = false := by
    rw [List.any_eq_false]
    intro e he
    rw [eq_of_mem_nameArgument he]
    exact Bool.false_ne_true
  have htype : (ColumnType.ofColumn column dialect).typeExpr.isFlag keyword = false := by
    rcases ColumnType.typeExpr_eq (ColumnType.ofColumn column dialect) with
      ⟨symbol, he⟩ | ⟨callee, args, he⟩
    · rw [he]
      rfl
    · rw [he]
      rfl
  have hreference : (referenceArgument table column dialect options).any (Expr.isFlag keyword) =
      false := by
    rw [List.any_eq_false]
    intro e he
    obtain ⟨target, rfl⟩ := exists_of_mem_referenceArgument he
    exact Bool.false_ne_true
  have hdefault : (defaultArgument column dialect).any (Expr.isFlag keyword) = false := by
    rw [List.any_eq_false]
    intro e he
    obtain ⟨expression, rfl⟩ := exists_of_mem_defaultArgument he
    exact Bool.false_ne_true
  have hcomment : (commentArguments column.comment options).any (Expr.isFlag keyword) = false := by
    rw [List.any_eq_false]
    intro e he
    obtain ⟨text, rfl⟩ := exists_of_mem_commentArguments he
    exact Bool.false_ne_true
  unfold columnArguments
  simp only [List.any_append, List.any_cons, List.any_nil, hname, htype, hreference, hdefault,
    hcomment, Bool.false_or, Bool.or_false]

theorem any_isFlag_primaryKey (column : Column) (label : String) :
    (columnArguments table column label dialect options).any (Expr.isFlag "primary_key") =
      table.isPrimaryColumn column.name := by
  have hkey : (primaryKeyArgument table column).any (Expr.isFlag "primary_key") =
      table.isPrimaryColumn column.name := by
    unfold primaryKeyArgument
    cases table.isPrimaryColumn column.name <;> rfl
  have hunique : (uniqueArgument table column options).any (Expr.isFlag "primary_key") = false := by
    unfold uniqueArgument
    split <;> rfl
  rw [any_isFlag_columnArguments, hkey, hunique, Bool.or_false]

theorem any_isFlag_unique (hon : options.noConstraints = false) (column : Column)
    (label : String) :
    (columnArguments table column label dialect options).any (Expr.isFlag "unique") =
      table.isUniqueColumn column.name := by
  have hkey : (primaryKeyArgument table column).any (Expr.isFlag "unique") = false := by
    unfold primaryKeyArgument
    split <;> rfl
  have hunique : (uniqueArgument table column options).any (Expr.isFlag "unique") =
      table.isUniqueColumn column.name := by
    unfold uniqueArgument
    rw [hon]
    cases table.isUniqueColumn column.name <;> rfl
  rw [any_isFlag_columnArguments, hkey, hunique, Bool.false_or]

/-- An attribute stands for its column, whatever its own name. -/
theorem column_attributeOf (column : Column) (label : String) :
    (attributeOf table dialect options column label).column = column.name := by
  unfold Attribute.column attributeOf columnArguments nameArgument Expr.args
  by_cases hname : label = column.name
  · rcases ColumnType.typeExpr_eq (ColumnType.ofColumn column dialect) with
      ⟨symbol, he⟩ | ⟨callee, args, he⟩
    · simp [hname, he]
    · simp [hname, he]
  · simp [hname]

/-- The columns of a class that have a keyword switched on are those of the table that should. -/
theorem mem_flagged_classOf {keyword : String} {p : String → Bool}
    (h : ∀ column label,
      (columnArguments table column label dialect options).any (Expr.isFlag keyword) =
        p column.name) (name : String) {column : String} :
    column ∈ flagged keyword (classOf dialect options table name).columns ↔
      column ∈ table.columnNames ∧ p column = true := by
  unfold flagged ClassBlock.columns
  simp only [List.mem_map, List.mem_filter, Table.columnNames]
  constructor
  · rintro ⟨_, ⟨⟨a, ha, rfl⟩, hflag⟩, rfl⟩
    obtain ⟨found, hfound, label, _, rfl⟩ := exists_of_mem_zipWith ha
    rw [column_attributeOf]
    exact ⟨⟨found, hfound, rfl⟩, (h found label).symm.trans hflag⟩
  · rintro ⟨⟨found, hfound, rfl⟩, hp⟩
    obtain ⟨label, ha⟩ := exists_mem_zipWith (length_attributeNames table) hfound
      (f := attributeOf table dialect options)
    refine ⟨_, ⟨⟨_, ha, rfl⟩, (h found label).trans hp⟩, column_attributeOf found label⟩

/-- The constraints of a class cover the columns of the first primary key and of the uniqueness
constraints, and no others. -/
theorem declares_constraintKeys_classOf (hwell : table.WellFormed)
    (hon : options.noConstraints = false) (name : String) {columns : List String} :
    Declares (classOf dialect options table name).constraintKeys columns ↔
      table.IsStatedKey columns := by
  have hunique : ∀ column, column ∈ flagged "unique" (classOf dialect options table name).columns ↔
      column ∈ table.columnNames ∧ table.isUniqueColumn column = true :=
    fun _ => mem_flagged_classOf (any_isFlag_unique hon) name
  have hprimary : SameNames
      (flagged "primary_key" (classOf dialect options table name).columns)
      table.primaryKeyColumns := by
    constructor
    · intro column hcolumn
      exact List.contains_iff_mem.1 ((mem_flagged_classOf any_isFlag_primaryKey name).1 hcolumn).2
    · intro column hcolumn
      exact (mem_flagged_classOf any_isFlag_primaryKey name).2
        ⟨hwell.mem_columnNames_of_primaryKey column hcolumn, List.contains_iff_mem.2 hcolumn⟩
  unfold ClassBlock.constraintKeys Table.IsStatedKey
  rw [declares_keysOf, constraintColumns_items hon, hprimary.congr_left]
  constructor
  · rintro (⟨column, hcolumn, hsame⟩ | hkey | ⟨_, hkey, hsame⟩)
    · -- a column that is unique by itself
      obtain ⟨constraint, hmem, hon⟩ := List.any_eq_true.1 ((hunique column).1 hcolumn).2
      have hcolumns : constraint.columns = [column] := eq_of_beq hon
      refine Or.inr ⟨constraint, hmem, by simp [hcolumns], ?_⟩
      rwa [hcolumns]
    · exact Or.inl hkey
    · obtain ⟨constraint, hmem, rfl⟩ := List.mem_map.1 hkey
      obtain ⟨hmem, hlength⟩ := List.mem_filter.1 hmem
      refine Or.inr ⟨constraint, hmem, fun hnil => ?_, hsame⟩
      rw [hnil] at hlength
      cases hlength
  · rintro (hkey | ⟨constraint, hmem, hne, hsame⟩)
    · exact Or.inr (Or.inl hkey)
    · -- one column is marked, several stand in a constraint
      by_cases hlength : 1 < constraint.columns.length
      · refine Or.inr (Or.inr ⟨_, List.mem_map_of_mem (List.mem_filter.2 ⟨hmem, ?_⟩), hsame⟩)
        exact decide_eq_true hlength
      · have hone : constraint.columns.length = 1 := by
          have hpos := List.length_pos_iff.2 hne
          omega
        obtain ⟨column, hcolumns⟩ := List.length_eq_one_iff.1 hone
        have hcolumn : column ∈ table.columnNames :=
          hwell.constraint_columns constraint (List.mem_of_mem_filter hmem) column
            (by simp [hcolumns])
        refine Or.inl ⟨column, (hunique column).2 ⟨hcolumn, ?_⟩, hcolumns ▸ hsame⟩
        exact List.any_eq_true.2 ⟨constraint, hmem, beq_iff_eq.2 hcolumns⟩

end Declarative

/-! ## Keys of an assignment -/

namespace TableObjects

variable {dialect : Dialect} {options : Options} {table : Table}

theorem isNoKey_of_mem_columns :
    ∀ e ∈ table.columns.map (columnItem table dialect options), e.IsNoKey :=
  List.forall_mem_map.2 fun _ _ => ⟨rfl, rfl⟩

theorem isNoKey_of_mem_schemaItems : ∀ e ∈ schemaItems table dialect, e.IsNoKey := by
  intro e he
  obtain ⟨owner, rfl⟩ := exists_of_mem_schemaItems he
  exact ⟨rfl, rfl⟩

theorem constraintColumns_items (hon : options.noConstraints = false) (name : String) :
    (blockOf dialect options table name).items.filterMap Expr.constraintColumns? =
      table.primaryKeys.map Constraint.columns ++ table.uniques.map Constraint.columns := by
  have hindexes : (indexItems table options).filterMap Expr.constraintColumns? = [] := by
    refine List.filterMap_eq_nil_iff.2 fun e he => ?_
    obtain ⟨index, rfl⟩ := exists_of_mem_indexItems he
    rfl
  have hprimary : (table.primaryKeys.map primaryKeyConstraint).filterMap Expr.constraintColumns? =
      table.primaryKeys.map Constraint.columns := filterMap_constraintColumns?_map rfl _
  have hunique : (table.uniques.map uniqueConstraint).filterMap Expr.constraintColumns? =
      table.uniques.map Constraint.columns := filterMap_constraintColumns?_map rfl _
  show (itemsOf table dialect options).filterMap Expr.constraintColumns? = _
  unfold itemsOf constraintItems
  rw [hon, if_neg Bool.false_ne_true]
  simp only [List.filterMap_append, hindexes, hprimary, hunique,
    Expr.filterMap_constraintColumns?_eq_nil isNoKey_of_mem_columns,
    Expr.filterMap_constraintColumns?_eq_nil isNoKey_of_mem_foreignKeys,
    Expr.filterMap_constraintColumns?_eq_nil isNoKey_of_mem_commentArguments,
    Expr.filterMap_constraintColumns?_eq_nil isNoKey_of_mem_schemaItems,
    List.nil_append, List.append_nil]

theorem indexKeys_blockOf (hon : options.noIndexes = false) (name : String) :
    (blockOf dialect options table name).indexKeys =
      (table.explicitIndexes.filter Index.unique).map Index.columns := by
  have hconstraints : (constraintItems table dialect options).filterMap
      Expr.uniqueIndexColumns? = [] := by
    refine List.filterMap_eq_nil_iff.2 fun e he => ?_
    rcases cases_of_mem_constraintItems he with
      ⟨constraint, target, rfl⟩ | ⟨constraint, rfl⟩ | ⟨constraint, rfl⟩
    · rfl
    · rfl
    · rfl
  show (itemsOf table dialect options).filterMap Expr.uniqueIndexColumns? = _
  unfold itemsOf indexItems
  rw [hon, if_neg Bool.false_ne_true]
  simp only [List.filterMap_append, hconstraints, filterMap_uniqueIndexColumns?_indexes,
    Expr.filterMap_uniqueIndexColumns?_eq_nil isNoKey_of_mem_columns,
    Expr.filterMap_uniqueIndexColumns?_eq_nil isNoKey_of_mem_commentArguments,
    Expr.filterMap_uniqueIndexColumns?_eq_nil isNoKey_of_mem_schemaItems,
    List.nil_append, List.append_nil]

/-- An assignment declares every primary key and every uniqueness constraint. -/
theorem declares_constraintKeys_blockOf (hon : options.noConstraints = false) (name : String)
    {constraint : Constraint} (h : constraint ∈ table.primaryKeys ++ table.uniques) :
    Declares (blockOf dialect options table name).constraintKeys constraint.columns := by
  unfold TableBlock.constraintKeys
  rw [declares_keysOf, constraintColumns_items hon, ← List.map_append]
  exact Or.inr (Or.inr ⟨_, List.mem_map_of_mem h, SameNames.refl _⟩)

end TableObjects

/-! ## What is kept and what is lost -/

section Tables

variable {dialect : Dialect} {options : Options} {table : Table}

/-- A constraint that stands behind an index is a primary key or a uniqueness constraint on the
same columns. -/
theorem Table.exists_of_isBacked {index : Index} (h : table.isBacked index = true) :
    ∃ constraint ∈ table.primaryKeys ++ table.uniques, constraint.columns = index.columns := by
  obtain ⟨constraint, hmem, hkind⟩ := List.any_eq_true.1 (Bool.and_eq_true_iff.1 h).2
  obtain ⟨hkind, hcolumns⟩ := Bool.and_eq_true_iff.1 hkind
  refine ⟨constraint, List.mem_append.2 ?_, eq_of_beq hcolumns⟩
  rcases Bool.or_eq_true_iff.1 hkind with hunique | hprimary
  · exact Or.inr (List.mem_filter.2 ⟨hmem, hunique⟩)
  · exact Or.inl (List.mem_filter.2 ⟨hmem, hprimary⟩)

theorem Table.declares_explicitIndexes {index : Index} (h : index ∈ table.indexes)
    (hunique : index.unique = true) (hbacked : table.isBacked index = false) :
    Declares ((table.explicitIndexes.filter Index.unique).map Index.columns) index.columns := by
  have hexplicit : index ∈ table.explicitIndexes := List.mem_filter.2 ⟨h, by rw [hbacked]; rfl⟩
  exact ⟨_, List.mem_map_of_mem (List.mem_filter.2 ⟨hexplicit, hunique⟩), SameNames.refl _⟩

/-- A table with one primary key has no index that a class would lose. -/
theorem Table.isStatedKey_of_isBacked (hwell : table.WellFormed)
    (hone : table.primaryKeys.length ≤ 1) {index : Index} (h : index ∈ table.indexes)
    (hbacked : table.isBacked index = true) : table.IsStatedKey index.columns := by
  obtain ⟨constraint, hmem, hcolumns⟩ := Table.exists_of_isBacked hbacked
  rcases List.mem_append.1 hmem with hprimary | hunique
  · have hkeys : table.primaryKeys = [constraint] := by
      have hpos : 0 < table.primaryKeys.length := List.length_pos_of_mem hprimary
      obtain ⟨key, hkey⟩ := List.length_eq_one_iff.1 (show table.primaryKeys.length = 1 by omega)
      rw [hkey, List.mem_singleton] at hprimary
      rw [hkey, hprimary]
    have hfirst : table.constraints.find? Constraint.isPrimaryKey = some constraint := by
      rw [← List.head?_filter]
      exact congrArg List.head? hkeys
    have hcolumns : table.primaryKeyColumns = index.columns := by
      unfold Table.primaryKeyColumns
      rw [hfirst]
      exact hcolumns
    exact Or.inl (hcolumns ▸ SameNames.refl _)
  · refine Or.inr ⟨constraint, hunique, ?_, hcolumns ▸ SameNames.refl _⟩
    rw [hcolumns]
    exact (hwell.indexes index h).columns_ne

theorem Declarative.keepsUniqueness (hwell : table.WellFormed)
    (hconstraints : options.noConstraints = false) (hindexes : options.noIndexes = false)
    (name : String) :
    KeepsUniqueness table table.IsStatedKey (classOf dialect options table name).constraintKeys
      (classOf dialect options table name).indexKeys := by
  refine { constraints := ?_, indexes := ?_, backed := ?_ }
  · intro constraint hmem hne
    rw [declares_constraintKeys_classOf hwell hconstraints]
    exact Or.inr ⟨constraint, hmem, hne, SameNames.refl _⟩
  · intro index hmem hunique hbacked
    rw [indexKeys_classOf hindexes]
    exact Table.declares_explicitIndexes hmem hunique hbacked
  · intro index _ _
    exact declares_constraintKeys_classOf hwell hconstraints name

theorem TableObjects.keepsUniqueness (hconstraints : options.noConstraints = false)
    (hindexes : options.noIndexes = false) (name : String) :
    KeepsUniqueness table (fun _ => True) (blockOf dialect options table name).constraintKeys
      (blockOf dialect options table name).indexKeys := by
  refine { constraints := ?_, indexes := ?_, backed := ?_ }
  · intro constraint hmem _
    exact declares_constraintKeys_blockOf hconstraints name (List.mem_append_right _ hmem)
  · intro index hmem hunique hbacked
    rw [indexKeys_blockOf hindexes]
    exact Table.declares_explicitIndexes hmem hunique hbacked
  · intro index _ hbacked
    obtain ⟨constraint, hmem, hcolumns⟩ := Table.exists_of_isBacked hbacked
    rw [iff_true, ← hcolumns]
    exact declares_constraintKeys_blockOf hconstraints name hmem

end Tables

/-- No uniqueness is lost in a table assignment, and none in a class of a table with at most one
primary key. In any class, an index that the database made for a constraint is covered exactly if
its columns are those of the first primary key or of a uniqueness constraint. -/
theorem keepsUniqueness_generate [Holding] {schema : Schema} {options : Options}
    (hwell : schema.WellFormed)
    (hconstraints : options.noConstraints = false) (hindexes : options.noIndexes = false) :
    schema.WrittenAs options fun table block assignment =>
      KeepsUniqueness table table.IsStatedKey block.constraintKeys block.indexKeys ∧
        (table.primaryKeys.length ≤ 1 →
          KeepsUniqueness table (fun _ => True) block.constraintKeys block.indexKeys) ∧
        KeepsUniqueness table (fun _ => True) assignment.constraintKeys assignment.indexKeys := by
  refine schema.writtenAs options fun table htable name variableName => ⟨?_, fun hone => ?_, ?_⟩
  · exact Declarative.keepsUniqueness (hwell.tables table htable) hconstraints hindexes name
  · have hkept : KeepsUniqueness table table.IsStatedKey
        (Declarative.classOf schema.dialect options table name).constraintKeys
        (Declarative.classOf schema.dialect options table name).indexKeys :=
      Declarative.keepsUniqueness (hwell.tables table htable) hconstraints hindexes name
    refine { hkept with backed := fun index hmem hbacked => ?_ }
    rw [hkept.backed index hmem hbacked, iff_true]
    exact Table.isStatedKey_of_isBacked (hwell.tables table htable) hone hmem hbacked
  · exact TableObjects.keepsUniqueness hconstraints hindexes variableName

/-- Rooms are told apart by a number and by a name, each with a primary key of its own and an index
that belongs to it. A uniqueness constraint and an index have both columns. -/
def rooms : Table :=
  { name := "rooms"
    columns := [
      { name := "number", position := 1, typeName := "int4", nullable := false },
      { name := "name", position := 2, typeName := "text", nullable := false }]
    constraints := [
      ⟨"rooms_pkey", .primaryKey, ["number"]⟩,
      ⟨"rooms_name_key", .primaryKey, ["name"]⟩,
      ⟨"rooms_both_key", .unique, ["number", "name"]⟩]
    indexes := [
      ⟨"rooms_pkey", ["number"], true⟩,
      ⟨"rooms_name_key", ["name"], true⟩,
      ⟨"rooms_other", ["name", "number"], true⟩] }

/-- A schema of rooms alone. -/
def hotel : Schema :=
  { tables := [rooms] }

theorem keepsUniqueness_hotel :
    hotel.WellFormed ∧ ({} : Options).noConstraints = false ∧ ({} : Options).noIndexes = false ∧
      rooms.indexes.map rooms.isBacked = [true, true, false] ∧
      hotel.WrittenAs {} fun table block assignment =>
        KeepsUniqueness table table.IsStatedKey block.constraintKeys block.indexKeys ∧
          (table.primaryKeys.length ≤ 1 →
            KeepsUniqueness table (fun _ => True) block.constraintKeys block.indexKeys) ∧
          KeepsUniqueness table (fun _ => True) assignment.constraintKeys assignment.indexKeys := by
  have hwell : hotel.WellFormed := by decide
  exact ⟨hwell, rfl, rfl, by decide, keepsUniqueness_generate hwell rfl rfl⟩

/-- The class of rooms declares the name of a room unique in no way at all, although there is a
unique index on it; the assignment does. -/
theorem not_declares_name_hotel :
    hotel.WellFormed ∧ ⟨"rooms_name_key", ["name"], true⟩ ∈ rooms.indexes ∧
      (∀ block ∈ Declarative.classes hotel {},
        ¬Declares (block.constraintKeys ++ block.indexKeys) ["name"]) ∧
      ∀ assignment ∈ TableObjects.blocks hotel {}, Declares assignment.constraintKeys ["name"] := by
  exact ⟨by decide, by decide, by decide +kernel, by decide +kernel⟩

end SchemaCodegen
