import SchemaCodegen.Generation
import SchemaCodegen.Proofs.Code.Symbols
import SchemaCodegen.Proofs.Dependency.TableOrder
import SchemaCodegen.Proofs.Style.Plain

/-!
# Proofs: which symbols a module mentions

A block mentions a few symbols of its style and what the types of its columns mention. Every type
expression of a column is in the block of its table, so a type is mentioned by a module exactly if a
column has it.
-/

namespace SchemaCodegen

open SchemaCodegen.Code SchemaCodegen.Code.Vocabulary

/-- What the type of a column mentions, in its annotation and in its expression. -/
def ColumnType.symbols (type : ColumnType) : List Symbol :=
  type.hint.symbols ++ type.typeExpr.symbols

/-- What the types of a table's columns mention. -/
def Table.typeSymbols (table : Table) (dialect : Dialect) : List Symbol :=
  table.columns.flatMap fun column => (ColumnType.ofColumn column dialect).symbols

theorem Table.typeSymbols_subset (table : Table) (dialect : Dialect) :
    table.typeSymbols dialect ⊆
      ColumnType.hintSymbols dialect ++ ColumnType.typeSymbols dialect := by
  intro symbol hsymbol
  obtain ⟨column, _, hsymbol⟩ := List.mem_flatMap.1 hsymbol
  rcases List.mem_append.1 hsymbol with hsymbol | hsymbol
  · exact List.mem_append_left _ (ColumnType.symbols_hint_subset column _ hsymbol)
  · exact List.mem_append_right _ (ColumnType.symbols_typeExpr_subset column _ hsymbol)

theorem Table.nullSymbol_mem_typeSymbols (table : Table) (dialect : Dialect) :
    ColumnType.nullSymbol ∈ table.typeSymbols dialect ↔
      ∃ column ∈ table.columns, (ColumnType.ofColumn column dialect).isFallback = true := by
  unfold Table.typeSymbols ColumnType.symbols
  simp only [List.mem_flatMap, List.mem_append, ColumnType.nullSymbol_mem_symbols_iff]
  constructor
  · rintro ⟨column, hcolumn, hhint | htype⟩
    · have hmem := ColumnType.symbols_hint_subset column dialect hhint
      exact absurd hmem (ColumnType.nullSymbol_not_mem_hintSymbols dialect)
    · exact ⟨column, hcolumn, htype⟩
  · rintro ⟨column, hcolumn, htype⟩
    exact ⟨column, hcolumn, Or.inr htype⟩

/-! ## Classes -/

namespace Declarative

variable (table : Table) (dialect : Dialect) (options : Options)

/-- What a class can mention besides the types of its columns. -/
def ownSymbols : List Symbol :=
  [orm "Mapped", orm "mapped_column", typing "Optional", core "ForeignKey",
    core "ForeignKeyConstraint", core "UniqueConstraint", core "Index", ServerDefault.textSymbol]

theorem symbols_columnHint_subset (column : Column) (type : ColumnType) :
    (columnHint table column type).symbols ⊆ ownSymbols ++ type.hint.symbols := by
  unfold columnHint
  split
  · exact List.cons_subset.2 ⟨by simp [ownSymbols], List.subset_append_right _ _⟩
  · exact List.subset_append_right _ _

theorem symbolsOfAll_columnArguments_subset (column : Column) (name : String) :
    Expr.symbolsOfAll (columnArguments table column name dialect options) ⊆
      ownSymbols ++ (ColumnType.ofColumn column dialect).typeExpr.symbols := by
  have hname : Expr.symbolsOfAll (nameArgument column name) = [] := by
    apply Expr.symbolsOfAll_eq_nil
    intro e he
    rw [eq_of_mem_nameArgument he]
    rfl
  have hreference :
      Expr.symbolsOfAll (referenceArgument table column dialect options) ⊆ ownSymbols := by
    apply Expr.symbolsOfAll_subset
    intro e he
    obtain ⟨target, rfl⟩ := exists_of_mem_referenceArgument he
    rw [symbols_columnReference]
    simp [ownSymbols]
  have hkey : Expr.symbolsOfAll (primaryKeyArgument table column) = [] := by
    apply Expr.symbolsOfAll_eq_nil
    intro e he
    rw [eq_of_mem_primaryKeyArgument he]
    rfl
  have hunique : Expr.symbolsOfAll (uniqueArgument table column options) = [] := by
    apply Expr.symbolsOfAll_eq_nil
    intro e he
    rw [eq_of_mem_uniqueArgument he]
    rfl
  have hdefault : Expr.symbolsOfAll (defaultArgument column dialect) ⊆ ownSymbols :=
    List.Subset.trans (symbolsOfAll_defaultArgument_subset column) (by simp [ownSymbols])
  have hcomment := symbolsOfAll_commentArguments column.comment options
  unfold columnArguments
  simp only [Expr.symbolsOfAll_append, hname, hkey, hunique, hcomment, List.nil_append,
    List.append_nil, List.append_subset, Expr.symbolsOfAll]
  exact ⟨⟨List.subset_append_right _ _, List.subset_append_of_subset_left _ hreference⟩,
    List.subset_append_of_subset_left _ hdefault⟩

theorem symbols_attributeOf_subset (column : Column) (name : String) :
    (attributeOf table dialect options column name).symbols ⊆
      ownSymbols ++ (ColumnType.ofColumn column dialect).symbols := by
  intro symbol hsymbol
  rw [ColumnType.symbols, List.mem_append, List.mem_append]
  rcases List.mem_append.1 hsymbol with hsymbol | hsymbol
  · rcases List.mem_cons.1 hsymbol with rfl | hsymbol
    · exact Or.inl (by decide)
    · rcases List.mem_append.1 (symbols_columnHint_subset table column _ hsymbol) with h | h
      · exact Or.inl h
      · exact Or.inr (Or.inl h)
  · rcases List.mem_cons.1 hsymbol with rfl | hsymbol
    · exact Or.inl (by decide)
    · rcases List.mem_append.1
        (symbolsOfAll_columnArguments_subset table dialect options column name hsymbol) with h | h
      · exact Or.inl h
      · exact Or.inr (Or.inr h)

/-- The type expression of a column is in its attribute. -/
theorem symbols_typeExpr_subset_attributeOf (column : Column) (name : String) :
    (ColumnType.ofColumn column dialect).typeExpr.symbols ⊆
      (attributeOf table dialect options column name).symbols := by
  intro symbol hsymbol
  have hargs : symbol ∈ Expr.symbolsOfAll (columnArguments table column name dialect options) := by
    unfold columnArguments
    simp only [Expr.symbolsOfAll_append, Expr.symbolsOfAll, List.mem_append]
    tauto
  exact List.mem_append_right _ (List.mem_cons_of_mem _ hargs)

/-- The annotation of a column's values is in its attribute. -/
theorem symbols_hint_subset_attributeOf (column : Column) (name : String) :
    (ColumnType.ofColumn column dialect).hint.symbols ⊆
      (attributeOf table dialect options column name).symbols := by
  intro symbol hsymbol
  have hhint : symbol ∈
      (columnHint table column (ColumnType.ofColumn column dialect)).symbols := by
    unfold columnHint
    split
    · exact List.mem_cons_of_mem _ hsymbol
    · exact hsymbol
  exact List.mem_append_left _ (List.mem_cons_of_mem _ hhint)

theorem argsSymbols_classOf_subset (name : String) :
    (classOf dialect options table name).argsSymbols ⊆ ownSymbols := by
  have hconstraints : ∀ e ∈ constraintArguments table dialect options, e.symbols ⊆ ownSymbols := by
    intro e he
    rcases cases_of_mem_constraintArguments he with ⟨constraint, target, rfl⟩ | ⟨constraint, rfl⟩
    · rw [symbols_foreignKeyConstraint]
      simp [ownSymbols]
    · rw [uniqueConstraint, symbols_columnsConstraint]
      simp [ownSymbols]
  have hindexes : ∀ e ∈ indexArguments table options, e.symbols ⊆ ownSymbols := by
    intro e he
    obtain ⟨index, rfl⟩ := exists_of_mem_indexArguments he
    rw [symbols_indexDeclaration]
    simp [ownSymbols]
  have hkeywords : ∀ e ∈ keywordArguments table dialect options, e.symbols ⊆ ownSymbols := by
    intro e he
    obtain ⟨entries, rfl⟩ := exists_of_mem_keywordArguments he
    exact List.nil_subset _
  have hitems : ∀ e ∈ constraintArguments table dialect options ++ indexArguments table options ++
      keywordArguments table dialect options, e.symbols ⊆ ownSymbols :=
    List.forall_mem_append.2 ⟨List.forall_mem_append.2 ⟨hconstraints, hindexes⟩, hkeywords⟩
  unfold ClassBlock.argsSymbols classOf tableArgs
  dsimp only
  generalize constraintArguments table dialect options ++ indexArguments table options ++
    keywordArguments table dialect options = items at hitems
  cases items with
  | nil => exact List.nil_subset _
  | cons item items => exact Expr.symbolsOfAll_subset hitems

theorem symbols_classOf_subset (name : String) :
    (classOf dialect options table name).symbols ⊆
      ownSymbols ++ table.typeSymbols dialect := by
  intro symbol hsymbol
  rcases List.mem_append.1 hsymbol with hsymbol | hsymbol
  · exact List.mem_append_left _ (argsSymbols_classOf_subset table dialect options name hsymbol)
  · obtain ⟨a, ha, hsymbol⟩ := List.mem_flatMap.1 hsymbol
    obtain ⟨column, hcolumn, label, _, rfl⟩ := exists_of_mem_zipWith ha
    rcases List.mem_append.1 (symbols_attributeOf_subset table dialect options column label hsymbol)
      with h | h
    · exact List.mem_append_left _ h
    · exact List.mem_append_right _ (List.mem_flatMap.2 ⟨column, hcolumn, h⟩)

/-- Every column has an attribute in the class. -/
theorem exists_attributeOf_subset_classOf {column : Column} (h : column ∈ table.columns)
    (name : String) :
    ∃ label, (attributeOf table dialect options column label).symbols ⊆
      (classOf dialect options table name).symbols := by
  obtain ⟨label, hattribute⟩ := exists_mem_zipWith (length_attributeNames table) h
    (f := attributeOf table dialect options)
  refine ⟨label, fun symbol hsymbol => ?_⟩
  exact List.mem_append_right _ (List.mem_flatMap.2 ⟨_, hattribute, hsymbol⟩)

theorem symbols_typeExpr_subset_classOf {column : Column} (h : column ∈ table.columns)
    (name : String) :
    (ColumnType.ofColumn column dialect).typeExpr.symbols ⊆
      (classOf dialect options table name).symbols := by
  obtain ⟨label, hsubset⟩ := exists_attributeOf_subset_classOf table dialect options h name
  have htype := symbols_typeExpr_subset_attributeOf table dialect options column label
  exact List.Subset.trans htype hsubset

theorem symbols_hint_subset_classOf {column : Column} (h : column ∈ table.columns)
    (name : String) :
    (ColumnType.ofColumn column dialect).hint.symbols ⊆
      (classOf dialect options table name).symbols := by
  obtain ⟨label, hsubset⟩ := exists_attributeOf_subset_classOf table dialect options h name
  have hhint := symbols_hint_subset_attributeOf table dialect options column label
  exact List.Subset.trans hhint hsubset

end Declarative

/-! ## Table assignments -/

namespace TableObjects

variable (table : Table) (dialect : Dialect) (options : Options)

/-- What a table assignment can mention besides the types of its columns. -/
def ownSymbols : List Symbol :=
  [core "Column", core "Identity", core "ForeignKeyConstraint", core "PrimaryKeyConstraint",
    core "UniqueConstraint", core "Index", ServerDefault.textSymbol]

theorem symbols_columnItem_subset (column : Column) :
    (columnItem table dialect options column).symbols ⊆
      ownSymbols ++ (ColumnType.ofColumn column dialect).symbols := by
  have hidentity :
      Expr.symbolsOfAll (identityDeclaration? column dialect).toList ⊆ ownSymbols := by
    cases hcases : identityDeclaration? column dialect with
    | none => exact List.nil_subset _
    | some e =>
      rw [Option.toList_some, Expr.symbolsOfAll, symbols_identityDeclaration hcases]
      simp [ownSymbols, Expr.symbolsOfAll]
  have hkey : Expr.symbolsOfAll (keyArgument table column) = [] := by
    apply Expr.symbolsOfAll_eq_nil
    intro e he
    rcases cases_of_mem_keyArgument he with rfl | rfl
    · rfl
    · rfl
  have hdefault : Expr.symbolsOfAll (defaultArgument column dialect) ⊆ ownSymbols :=
    List.Subset.trans (symbolsOfAll_defaultArgument_subset column) (by simp [ownSymbols])
  have hcomment := symbolsOfAll_commentArguments column.comment options
  refine List.cons_subset.2 ⟨List.mem_append_left _ (by decide), ?_⟩
  unfold columnArguments
  simp only [Expr.symbolsOfAll_append, hkey, hcomment, List.nil_append,
    List.append_nil, List.append_subset, Expr.symbolsOfAll, Expr.symbols]
  exact ⟨⟨List.subset_append_of_subset_right _ (List.subset_append_right _ _),
    List.subset_append_of_subset_left _ hidentity⟩, List.subset_append_of_subset_left _ hdefault⟩

theorem symbols_blockOf_subset (name : String) :
    (blockOf dialect options table name).symbols ⊆
      ownSymbols ++ table.typeSymbols dialect := by
  have hcolumns : ∀ e ∈ table.columns.map (columnItem table dialect options),
      e.symbols ⊆ ownSymbols ++ table.typeSymbols dialect := by
    intro e he symbol hsymbol
    obtain ⟨column, hcolumn, rfl⟩ := List.mem_map.1 he
    rcases List.mem_append.1 (symbols_columnItem_subset table dialect options column hsymbol)
      with h | h
    · exact List.mem_append_left _ h
    · exact List.mem_append_right _ (List.mem_flatMap.2 ⟨column, hcolumn, h⟩)
  have hconstraints : ∀ e ∈ constraintItems table dialect options, e.symbols ⊆ ownSymbols := by
    intro e he
    rcases cases_of_mem_constraintItems he with
      ⟨constraint, target, rfl⟩ | ⟨constraint, rfl⟩ | ⟨constraint, rfl⟩
    · rw [symbols_foreignKeyConstraint]
      simp [ownSymbols]
    · rw [primaryKeyConstraint, symbols_columnsConstraint]
      simp [ownSymbols]
    · rw [uniqueConstraint, symbols_columnsConstraint]
      simp [ownSymbols]
  have hindexes : ∀ e ∈ indexItems table options, e.symbols ⊆ ownSymbols := by
    intro e he
    obtain ⟨index, rfl⟩ := exists_of_mem_indexItems he
    rw [symbols_indexDeclaration]
    simp [ownSymbols]
  have hcomment : ∀ e ∈ commentArguments table.comment options, e.symbols ⊆ ownSymbols := by
    intro e he
    obtain ⟨comment, rfl⟩ := exists_of_mem_commentArguments he
    exact List.nil_subset _
  have hschema : ∀ e ∈ schemaItems table dialect, e.symbols ⊆ ownSymbols := by
    intro e he
    obtain ⟨owner, rfl⟩ := exists_of_mem_schemaItems he
    exact List.nil_subset _
  have hown : ∀ {e : Expr}, e.symbols ⊆ ownSymbols →
      e.symbols ⊆ ownSymbols ++ table.typeSymbols dialect :=
    fun h => List.subset_append_of_subset_left _ h
  intro symbol hsymbol
  obtain ⟨e, he, hsymbol⟩ := List.mem_flatMap.1 hsymbol
  have hitem : e.symbols ⊆ ownSymbols ++ table.typeSymbols dialect := by
    replace he : e ∈ itemsOf table dialect options := he
    simp only [itemsOf, List.mem_append] at he
    rcases he with (((he | he) | he) | he) | he
    · exact hcolumns e he
    · exact hown (hconstraints e he)
    · exact hown (hindexes e he)
    · exact hown (hcomment e he)
    · exact hown (hschema e he)
  exact hitem hsymbol

/-- The type expressions of all columns are in the assignment. -/
theorem symbols_typeExpr_subset_blockOf {column : Column} (h : column ∈ table.columns)
    (name : String) :
    (ColumnType.ofColumn column dialect).typeExpr.symbols ⊆
      (blockOf dialect options table name).symbols := by
  intro symbol hsymbol
  have hitem : columnItem table dialect options column ∈ itemsOf table dialect options := by
    unfold itemsOf
    simp only [List.mem_append, List.mem_map]
    exact Or.inl (Or.inl (Or.inl (Or.inl ⟨column, h, rfl⟩)))
  have hargs : symbol ∈ Expr.symbolsOfAll (columnArguments table column dialect options) := by
    unfold columnArguments
    simp only [Expr.symbolsOfAll_append, Expr.symbolsOfAll, List.mem_append]
    tauto
  exact List.mem_flatMap.2 ⟨_, hitem, List.mem_cons_of_mem _ hargs⟩

end TableObjects

/-! ## Modules -/

variable (schema : Schema) (options : Options)

/-- A symbol that a declarative module mentions belongs to the style or to a column's type. -/
theorem Declarative.mem_own_or_types {symbol : Symbol}
    (h : symbol ∈ (classes schema options).flatMap ClassBlock.symbols) :
    symbol ∈ ownSymbols ∨ ∃ table ∈ schema.tables, symbol ∈ table.typeSymbols schema.dialect := by
  obtain ⟨block, hblock, hsymbol⟩ := List.mem_flatMap.1 h
  obtain ⟨table, htable, name, _, rfl⟩ := exists_of_mem_zipWith hblock
  rcases List.mem_append.1 (symbols_classOf_subset table schema.dialect options name hsymbol)
    with hown | htypes
  · exact Or.inl hown
  · exact Or.inr ⟨table, htable, htypes⟩

theorem Declarative.mem_symbols_of_typeExpr {table : Table} (htable : table ∈ schema.tables)
    {column : Column} (hcolumn : column ∈ table.columns) :
    (ColumnType.ofColumn column schema.dialect).typeExpr.symbols ⊆
      (classes schema options).flatMap ClassBlock.symbols := by
  obtain ⟨name, hblock⟩ := exists_mem_zipWith (length_classNames schema options) htable
    (f := classOf schema.dialect options)
  intro symbol hsymbol
  refine List.mem_flatMap.2 ⟨_, hblock, ?_⟩
  exact symbols_typeExpr_subset_classOf table schema.dialect options hcolumn name hsymbol

theorem TableObjects.mem_own_or_types {symbol : Symbol}
    (h : symbol ∈ (blocks schema options).flatMap TableBlock.symbols) :
    symbol ∈ ownSymbols ∨ ∃ table ∈ schema.tables, symbol ∈ table.typeSymbols schema.dialect := by
  obtain ⟨block, hblock, hsymbol⟩ := List.mem_flatMap.1 h
  obtain ⟨table, htable, name, _, rfl⟩ := exists_of_mem_zipWith hblock
  rcases List.mem_append.1 (symbols_blockOf_subset table schema.dialect options name hsymbol)
    with hown | htypes
  · exact Or.inl hown
  · exact Or.inr ⟨table, (Dependency.sortTables_perm schema.tables).mem_iff.1 htable, htypes⟩

theorem TableObjects.mem_symbols_of_typeExpr {table : Table} (htable : table ∈ schema.tables)
    {column : Column} (hcolumn : column ∈ table.columns) :
    (ColumnType.ofColumn column schema.dialect).typeExpr.symbols ⊆
      (blocks schema options).flatMap TableBlock.symbols := by
  have hsorted := (Dependency.sortTables_perm schema.tables).mem_iff.2 htable
  obtain ⟨name, hblock⟩ := exists_mem_zipWith (length_variableNames _) hsorted
    (f := blockOf schema.dialect options)
  intro symbol hsymbol
  refine List.mem_flatMap.2 ⟨_, hblock, ?_⟩
  exact symbols_typeExpr_subset_blockOf table schema.dialect options hcolumn name hsymbol

end SchemaCodegen
