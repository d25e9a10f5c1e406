import SchemaCodegen.Proofs.Code.Blocks
import SchemaCodegen.Proofs.Code.Vocabulary
import SchemaCodegen.Proofs.Naming.Plain
import SchemaCodegen.Proofs.Style.Parts

/-!
# Proofs: generated blocks keep to the vocabulary

Every class and every table assignment that a schema gives is written with the vocabulary of its
dialect and with names, in whatever way a text of the schema gets into it. So it writes plain names
only, and the sections of a generated module are made of lines that its parts account for.
-/

namespace SchemaCodegen

open SchemaCodegen.Text SchemaCodegen.Code SchemaCodegen.Code.Vocabulary SchemaCodegen.Naming

/-- What two lists give together comes from a member of each. -/
theorem exists_of_mem_zipWith {α β γ : Type} {f : α → β → γ} {as : List α} {bs : List β} {c : γ}
    (h : c ∈ List.zipWith f as bs) : ∃ a ∈ as, ∃ b ∈ bs, c = f a b := by
  rw [← List.map_uncurry_zip_eq_zipWith] at h
  obtain ⟨⟨a, b⟩, hab, rfl⟩ := List.mem_map.1 h
  exact ⟨a, (List.of_mem_zip hab).1, b, (List.of_mem_zip hab).2, rfl⟩

/-- Every member of a list stands beside one of another list of the same length. -/
theorem exists_mem_zip {α β : Type} {as : List α} {bs : List β} {a : α}
    (hlength : bs.length = as.length) (h : a ∈ as) : ∃ b, (a, b) ∈ as.zip bs := by
  have hfst : (as.zip bs).map Prod.fst = as := List.map_fst_zip (by omega)
  rw [← hfst] at h
  obtain ⟨⟨_, b⟩, hpair, rfl⟩ := List.mem_map.1 h
  exact ⟨b, hpair⟩

theorem exists_mem_zipWith {α β γ : Type} {f : α → β → γ} {as : List α} {bs : List β} {a : α}
    (hlength : bs.length = as.length) (h : a ∈ as) : ∃ b, f a b ∈ List.zipWith f as bs := by
  obtain ⟨b, hpair⟩ := exists_mem_zip hlength h
  rw [← List.map_uncurry_zip_eq_zipWith]
  exact ⟨b, List.mem_map.2 ⟨(a, b), hpair, rfl⟩⟩

/-! ## As many names as things -/

theorem Declarative.length_attributeNames (table : Table) :
    (attributeNames table).length = table.columns.length := by
  rw [attributeNames, length_claimAll, List.length_map]

theorem Declarative.length_attributesOf (table : Table) (dialect : Dialect) (options : Options) :
    (attributesOf table dialect options).length = table.columns.length := by
  rw [attributesOf, List.length_zipWith, length_attributeNames, Nat.min_self]

theorem Declarative.length_classNames (schema : Schema) (options : Options) :
    (classNames schema options).length = schema.tables.length := by
  rw [classNames, length_claimAll, List.length_map]

theorem TableObjects.length_variableNames (tables : List Table) :
    (variableNames tables).length = tables.length := by
  rw [variableNames, length_claimAll, List.length_map]

theorem Declarative.length_classes (schema : Schema) (options : Options) :
    (classes schema options).length = schema.tables.length := by
  rw [classes, List.length_zipWith, length_classNames, Nat.min_self]

theorem TableObjects.length_blocks (schema : Schema) (options : Options) :
    (blocks schema options).length = (Dependency.sortTables schema.tables).length := by
  rw [blocks, List.length_zipWith, length_variableNames, Nat.min_self]

/-! ## Blocks of a vocabulary -/

namespace Code

/-- An attribute that is written with the vocabulary of a dialect. -/
structure Attribute.IsSpoken (dialect : Dialect) (a : Attribute) : Prop where
  /-- It has a name. -/
  name : IsName a.name
  /-- Its annotation is over the vocabulary. -/
  hint : a.hint.IsSpoken dialect
  /-- Its value is over the vocabulary. -/
  value : a.value.IsSpoken dialect
  /-- The annotation stands for itself. -/
  hint_ne : a.hint.isKeyword = false
  /-- The value stands for itself. -/
  value_ne : a.value.isKeyword = false

/-- A class that is written with the vocabulary of a dialect. -/
structure ClassBlock.IsSpoken (dialect : Dialect) (block : ClassBlock) : Prop where
  /-- It has a name. -/
  name : IsName block.name
  /-- What is stated of the table as a whole is over the vocabulary. -/
  tableArgs : ∀ args ∈ block.tableArgs, args.IsSpoken dialect
  /-- It stands for itself. -/
  tableArgs_ne : ∀ args ∈ block.tableArgs, args.isKeyword = false
  /-- So are the attributes. -/
  attributes : ∀ a ∈ block.attributes, a.IsSpoken dialect

/-- A table assignment that is written with the vocabulary of a dialect. -/
structure TableBlock.IsSpoken (dialect : Dialect) (block : TableBlock) : Prop where
  /-- It has a name. -/
  name : IsName block.name
  /-- The arguments are over the vocabulary. -/
  items : ∀ item ∈ block.items, item.IsSpoken dialect
  /-- They are calls or given by name. -/
  isArgument : ∀ item ∈ block.items, item.isArgument = true

variable {dialect : Dialect}

theorem Attribute.IsSpoken.isPlain {a : Attribute} (h : a.IsSpoken dialect) : a.IsPlain :=
  { name := isPlain_of_isName h.name, hint := h.hint.isPlain, value := h.value.isPlain }

theorem ClassBlock.IsSpoken.isPlain {block : ClassBlock} (h : block.IsSpoken dialect) :
    block.IsPlain :=
  { name := isPlain_of_isName h.name
    tableArgs := fun args hargs => (h.tableArgs args hargs).isPlain
    attributes := fun a ha => (h.attributes a ha).isPlain }

theorem TableBlock.IsSpoken.isPlain {block : TableBlock} (h : block.IsSpoken dialect) :
    block.IsPlain :=
  { name := isPlain_of_isName h.name
    items := fun item hitem => (h.items item hitem).isPlain
    isArgument := h.isArgument }

/-- The symbols of such a class are those of the vocabulary. -/
theorem ClassBlock.IsSpoken.symbols {block : ClassBlock} (h : block.IsSpoken dialect) :
    ∀ symbol ∈ block.symbols, symbol ∈ vocabulary dialect := by
  refine List.forall_mem_append.2 ⟨?_, List.forall_mem_flatMap.2 fun a ha => ?_⟩
  · intro symbol hsymbol
    rw [argsSymbols] at hsymbol
    split at hsymbol
    · cases hsymbol
    · next args hargs => exact (h.tableArgs args hargs).symbols symbol hsymbol
  · have ha := h.attributes a ha
    exact List.forall_mem_append.2 ⟨ha.hint.symbols, ha.value.symbols⟩

theorem TableBlock.IsSpoken.symbols {block : TableBlock} (h : block.IsSpoken dialect) :
    ∀ symbol ∈ block.symbols, symbol ∈ vocabulary dialect :=
  List.forall_mem_flatMap.2 fun item hitem => (h.items item hitem).symbols

end Code

/-! ## Declarative classes -/

namespace Declarative

variable (table : Table) (dialect : Dialect) (options : Options)

theorem isSpoken_columnHint (column : Column) :
    (columnHint table column (ColumnType.ofColumn column dialect)).IsSpoken dialect := by
  have htype := ColumnType.isSpoken_ofColumn column dialect
  rw [columnHint]
  split
  · exact .index (mem_vocabulary_of_common (by decide)) htype.hint
  · exact htype.hint

theorem isSpoken_columnArguments (column : Column) (name : String) :
    ∀ e ∈ columnArguments table column name dialect options, e.IsSpoken dialect := by
  have hname : ∀ e ∈ nameArgument column name, e.IsSpoken dialect := by
    intro e he
    rw [eq_of_mem_nameArgument he]
    exact .literal
  have hreference : ∀ e ∈ referenceArgument table column dialect options,
      e.IsSpoken dialect := by
    intro e he
    obtain ⟨target, rfl⟩ := exists_of_mem_referenceArgument he
    exact isSpoken_columnReference target
  have hkey : ∀ e ∈ primaryKeyArgument table column, e.IsSpoken dialect := by
    intro e he
    rw [eq_of_mem_primaryKeyArgument he]
    exact isSpoken_flag (by decide)
  have hunique : ∀ e ∈ uniqueArgument table column options, e.IsSpoken dialect := by
    intro e he
    rw [eq_of_mem_uniqueArgument he]
    exact isSpoken_flag (by decide)
  simp only [columnArguments, List.forall_mem_append, List.forall_mem_singleton]
  exact ⟨⟨⟨⟨⟨⟨hname, (ColumnType.isSpoken_ofColumn column dialect).typeExpr⟩, hreference⟩, hkey⟩,
    hunique⟩, isSpoken_defaultArgument column⟩, isSpoken_commentArguments _ options⟩

theorem isName_attributeNames : ∀ name ∈ attributeNames table, IsName name := by
  refine isMadeOf_claimAll (by decide) fun name hname => ?_
  obtain ⟨column, _, rfl⟩ := List.mem_map.1 hname
  exact isName_attributeName column.name

theorem isSpoken_attributesOf :
    ∀ a ∈ attributesOf table dialect options, a.IsSpoken dialect := by
  intro a ha
  obtain ⟨column, _, name, hname, rfl⟩ := exists_of_mem_zipWith ha
  exact
    { name := isName_attributeNames table name hname
      hint := .index (mem_vocabulary_of_common (by decide))
        (isSpoken_columnHint table dialect column)
      value := .call (mem_vocabulary_of_common (by decide))
        (isSpoken_columnArguments table dialect options column name)
      hint_ne := rfl
      value_ne := rfl }

theorem isSpoken_tableArgs :
    ∀ args ∈ tableArgs table dialect options, args.IsSpoken dialect ∧ args.isKeyword = false := by
  have hconstraints : ∀ e ∈ constraintArguments table dialect options, e.IsSpoken dialect := by
    intro e he
    rcases cases_of_mem_constraintArguments he with ⟨constraint, target, rfl⟩ | ⟨constraint, rfl⟩
    · exact isSpoken_foreignKeyConstraint constraint target
    · exact isSpoken_columnsConstraint (by decide) constraint
  have hindexes : ∀ e ∈ indexArguments table options, e.IsSpoken dialect := by
    intro e he
    obtain ⟨index, rfl⟩ := exists_of_mem_indexArguments he
    exact isSpoken_indexDeclaration index
  have hkeywords : ∀ e ∈ keywordArguments table dialect options, e.IsSpoken dialect := by
    intro e he
    obtain ⟨entries, rfl⟩ := exists_of_mem_keywordArguments he
    exact .dict
  have hfront := List.forall_mem_append.2 ⟨hconstraints, hindexes⟩
  intro args hargs
  rw [tableArgs] at hargs
  split at hargs
  · cases hargs
  · rw [← Option.some.inj hargs]
    exact ⟨.tuple (List.forall_mem_append.2 ⟨hfront, hkeywords⟩), rfl⟩

/-- The classes of a schema keep to the vocabulary of its dialect. -/
theorem isSpoken_classes (schema : Schema) (options : Options) :
    ∀ block ∈ classes schema options, block.IsSpoken schema.dialect := by
  intro block hblock
  obtain ⟨table, _, name, hname, rfl⟩ := exists_of_mem_zipWith hblock
  have hclass : IsName name := by
    refine isMadeOf_claimAll (by decide) (fun name hname => ?_) name hname
    obtain ⟨table, _, rfl⟩ := List.mem_map.1 hname
    exact isName_className table.name _
  have hargs := isSpoken_tableArgs table schema.dialect options
  exact
    { name := hclass
      tableArgs := fun args hmem => (hargs args hmem).1
      tableArgs_ne := fun args hmem => (hargs args hmem).2
      attributes := isSpoken_attributesOf table schema.dialect options }

theorem isPlain_classes (schema : Schema) (options : Options) :
    ∀ block ∈ classes schema options, block.IsPlain :=
  fun block hblock => (isSpoken_classes schema options block hblock).isPlain

theorem mem_vocabulary_of_mem_symbols (schema : Schema) (options : Options) :
    ∀ symbol ∈ fixedSymbols ++ (classes schema options).flatMap ClassBlock.symbols,
      symbol ∈ vocabulary schema.dialect := by
  have hfixed : ∀ symbol ∈ fixedSymbols, symbol ∈ commonSymbols := by decide
  refine List.forall_mem_append.2 ⟨fun symbol hsymbol => ?_, ?_⟩
  · exact mem_vocabulary_of_common (hfixed symbol hsymbol)
  · exact List.forall_mem_flatMap.2 fun block hblock =>
      (isSpoken_classes schema options block hblock).symbols

theorem isPlain_symbols (schema : Schema) (options : Options) :
    ∀ symbol ∈ fixedSymbols ++ (classes schema options).flatMap ClassBlock.symbols,
      symbol.IsPlain :=
  fun symbol hsymbol =>
    isPlain_of_mem_vocabulary symbol (mem_vocabulary_of_mem_symbols schema options symbol hsymbol)

end Declarative

/-! ## Table objects -/

namespace TableObjects

variable (table : Table) (dialect : Dialect) (options : Options)

theorem isSpoken_columnArguments (column : Column) :
    ∀ e ∈ columnArguments table column dialect options, e.IsSpoken dialect := by
  have hidentity : ∀ e ∈ (identityDeclaration? column dialect).toList, e.IsSpoken dialect :=
    fun e he => isSpoken_identityDeclaration (Option.mem_toList.1 he)
  have hkey : ∀ e ∈ keyArgument table column, e.IsSpoken dialect := by
    intro e he
    rcases cases_of_mem_keyArgument he with rfl | rfl
    · exact isSpoken_flag (by decide)
    · exact .keyword (by decide) .truth
  simp only [columnArguments, List.forall_mem_append, List.forall_mem_cons]
  exact ⟨⟨⟨⟨⟨.literal, (ColumnType.isSpoken_ofColumn column dialect).typeExpr,
    List.forall_mem_nil _⟩, hidentity⟩, hkey⟩, isSpoken_defaultArgument column⟩,
    isSpoken_commentArguments _ options⟩

/-- An expression over the vocabulary that is a call or an argument by name. -/
def IsSpokenArgument (e : Expr) : Prop :=
  e.IsSpoken dialect ∧ e.isArgument = true

/-- The arguments of a table are calls and arguments by name over the vocabulary. -/
theorem isSpokenArgument_of_mem_itemsOf :
    ∀ item ∈ itemsOf table dialect options, IsSpokenArgument dialect item := by
  have hcolumns : ∀ e ∈ table.columns.map (columnItem table dialect options),
      IsSpokenArgument dialect e := by
    intro e he
    obtain ⟨column, rfl⟩ := exists_of_mem_columns he
    exact ⟨.call (mem_vocabulary_of_common (by decide))
      (isSpoken_columnArguments table dialect options column), rfl⟩
  have hconstraints : ∀ e ∈ constraintItems table dialect options,
      IsSpokenArgument dialect e := by
    intro e he
    rcases cases_of_mem_constraintItems he with
      ⟨constraint, target, rfl⟩ | ⟨constraint, rfl⟩ | ⟨constraint, rfl⟩
    · exact ⟨isSpoken_foreignKeyConstraint constraint target, rfl⟩
    · exact ⟨isSpoken_columnsConstraint (by decide) constraint, rfl⟩
    · exact ⟨isSpoken_columnsConstraint (by decide) constraint, rfl⟩
  have hindexes : ∀ e ∈ indexItems table options, IsSpokenArgument dialect e := by
    intro e he
    obtain ⟨index, rfl⟩ := exists_of_mem_indexItems he
    exact ⟨isSpoken_indexDeclaration index, rfl⟩
  have hcomment : ∀ e ∈ commentArguments table.comment options, IsSpokenArgument dialect e := by
    intro e he
    refine ⟨isSpoken_commentArguments _ options e he, ?_⟩
    obtain ⟨text, rfl⟩ := exists_of_mem_commentArguments he
    rfl
  have hschema : ∀ e ∈ schemaItems table dialect, IsSpokenArgument dialect e := by
    intro e he
    obtain ⟨owner, rfl⟩ := exists_of_mem_schemaItems he
    exact ⟨.keyword (by decide) .literal, rfl⟩
  simp only [itemsOf, List.forall_mem_append]
  exact ⟨⟨⟨⟨hcolumns, hconstraints⟩, hindexes⟩, hcomment⟩, hschema⟩

/-- The assignments of a schema keep to the vocabulary of its dialect. -/
theorem isSpoken_blocks (schema : Schema) (options : Options) :
    ∀ block ∈ blocks schema options, block.IsSpoken schema.dialect := by
  intro block hblock
  obtain ⟨table, _, name, hname, rfl⟩ := exists_of_mem_zipWith hblock
  have hvariable : IsName name := by
    refine isMadeOf_claimAll (by decide) (fun name hname => ?_) name hname
    obtain ⟨table, _, rfl⟩ := List.mem_map.1 hname
    exact isName_variableName table.name
  have hitems := isSpokenArgument_of_mem_itemsOf table schema.dialect options
  exact
    { name := hvariable
      items := fun item hitem => (hitems item hitem).1
      isArgument := fun item hitem => (hitems item hitem).2 }

theorem isPlain_blocks (schema : Schema) (options : Options) :
    ∀ block ∈ blocks schema options, block.IsPlain :=
  fun block hblock => (isSpoken_blocks schema options block hblock).isPlain

theorem mem_vocabulary_of_mem_symbols (schema : Schema) (options : Options) :
    ∀ symbol ∈ fixedSymbols ++ (blocks schema options).flatMap TableBlock.symbols,
      symbol ∈ vocabulary schema.dialect := by
  have hfixed : ∀ symbol ∈ fixedSymbols, symbol ∈ commonSymbols := by decide
  refine List.forall_mem_append.2 ⟨fun symbol hsymbol => ?_, ?_⟩
  · exact mem_vocabulary_of_common (hfixed symbol hsymbol)
  · exact List.forall_mem_flatMap.2 fun block hblock =>
      (isSpoken_blocks schema options block hblock).symbols

theorem isPlain_symbols (schema : Schema) (options : Options) :
    ∀ symbol ∈ fixedSymbols ++ (blocks schema options).flatMap TableBlock.symbols,
      symbol.IsPlain :=
  fun symbol hsymbol =>
    isPlain_of_mem_vocabulary symbol (mem_vocabulary_of_mem_symbols schema options symbol hsymbol)

end TableObjects

/-! ## Sections of modules -/

/-- An import block for plain symbols is a section if one of them is imported by name. -/
theorem isSection_ofSymbols {symbols : List Symbol} (h : ∀ symbol ∈ symbols, symbol.IsPlain)
    {module name : String} (hmem : ⟨.importedFrom module, name⟩ ∈ symbols) :
    IsSection (Imports.ofSymbols symbols).lines :=
  (Imports.isPlain_ofSymbols h).isSection (List.ne_nil_of_mem (Imports.mem_pairs_ofSymbols.2 hmem))

/-- The sections of a declarative module are sections. -/
theorem Declarative.isSection_of_mem_sections (schema : Schema) (options : Options) :
    ∀ lines ∈ (toModule schema options).sections, IsSection lines := by
  simp only [Module.sections, toModule, List.forall_mem_cons, List.forall_mem_map]
  refine ⟨isSection_ofSymbols (isPlain_symbols schema options) (List.mem_cons_self ..), ?_,
    fun block hblock => ?_⟩
  · exact isSection_of_forall (by simp) (by decide)
  · exact (isPlain_classes schema options block hblock).isSection

theorem TableObjects.isSection_of_mem_sections (schema : Schema) (options : Options) :
    ∀ lines ∈ (toModule schema options).sections, IsSection lines := by
  simp only [Module.sections, toModule, List.forall_mem_cons, List.forall_mem_map]
  refine ⟨isSection_ofSymbols (isPlain_symbols schema options) (List.mem_cons_self ..), ?_,
    fun block hblock => ?_⟩
  · exact isSection_of_forall (by simp) (by decide)
  · exact (isPlain_blocks schema options block hblock).isSection

theorem Style.isSection_of_mem_sections (style : Style) (schema : Schema) (options : Options) :
    ∀ lines ∈ (style.toModule schema options).sections, IsSection lines := by
  cases style with
  | declarative => exact Declarative.isSection_of_mem_sections schema options
  | tables => exact TableObjects.isSection_of_mem_sections schema options

end SchemaCodegen
