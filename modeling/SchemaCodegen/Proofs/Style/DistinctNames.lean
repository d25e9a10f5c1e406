import SchemaCodegen.Proofs.Naming.FreeName
import SchemaCodegen.Proofs.Style.Imports
import SchemaCodegen.Proofs.Style.Symbols

/-!
# Proofs: generated names do not collide

The names of one scope are claimed one after another, so they are all different. None of them hides
what the module imports: whatever a class can mention is reserved from the start, and the names of
variables begin as no import does.
-/

namespace SchemaCodegen

open SchemaCodegen.Text SchemaCodegen.Code SchemaCodegen.Code.Vocabulary SchemaCodegen.Naming

/-- Names of one scope of a text: all of them different, none taken otherwise, none imported. -/
structure Code.AreFree (cs : List Char) (taken names : List String) : Prop where
  /-- They are different. -/
  nodup : names.Nodup
  /-- None of them is taken. -/
  apart : ∀ name ∈ names, name ∉ taken
  /-- The text imports none of them, neither from a module nor as one. -/
  own : ∀ name ∈ names, ¬IsImported cs name

/-! ## What a declarative module imports -/

namespace Declarative

/-- The modules that annotations mention. -/
def hintModules : List String :=
  ["datetime", "decimal", "uuid"]

variable (schema : Schema) (options : Options)

/-- What a declarative module can mention is reserved or belongs to a module that annotations
mention, but for what needs no import. -/
theorem reserved_of_mem_known (dialect : Dialect) :
    ∀ symbol ∈ (fixedSymbols ++ ownSymbols) ++
      (ColumnType.hintSymbols dialect ++ ColumnType.typeSymbols dialect),
      (symbol.source?.isSome → symbol.name ∈ reservedClassNames) ∧
        ∀ module ∈ symbol.whole?, module ∈ hintModules := by
  cases dialect <;> decide +kernel

/-- The symbols of a declarative module are known beforehand, but for the dialect. -/
theorem mem_reserved_of_mem_symbols {symbol : Symbol}
    (h : symbol ∈ fixedSymbols ++ (classes schema options).flatMap ClassBlock.symbols) :
    (symbol.source?.isSome → symbol.name ∈ reservedClassNames) ∧
      ∀ module ∈ symbol.whole?, module ∈ hintModules := by
  apply reserved_of_mem_known schema.dialect
  rcases List.mem_append.1 h with h | h
  · exact List.mem_append_left _ (List.mem_append_left _ h)
  · rcases mem_own_or_types schema options h with hown | ⟨table, _, htypes⟩
    · exact List.mem_append_left _ (List.mem_append_right _ hown)
    · exact List.mem_append_right _ (table.typeSymbols_subset schema.dialect htypes)

/-- What a declarative module imports is reserved or is a module that annotations mention. -/
theorem reserved_of_isImported [Holding] {name : String}
    (h : IsImported (generate .declarative schema options).output.toList name) :
    name ∈ reservedClassNames ∨ name ∈ hintModules := by
  have hmade := isMadeOf_toModule schema options
  rcases h with ⟨module, hmem⟩ | hmem
  · have hsymbol := hmade.mem_importedNames.1 hmem
    exact Or.inl ((mem_reserved_of_mem_symbols schema options hsymbol).1 rfl)
  · obtain ⟨symbol, hsymbol, hhome⟩ := hmade.mem_importedModules.1 hmem
    have hwhole := Symbol.mem_whole? hhome
    exact Or.inr ((mem_reserved_of_mem_symbols schema options hsymbol).2 name hwhole)

/-! ## Classes and attributes -/

theorem areFree_classNames [Holding] :
    AreFree (generate .declarative schema options).output.toList ["Base"]
      (classNames schema options) := by
  have hreserved : ∀ name ∈ classNames schema options, name ∉ reservedClassNames :=
    not_mem_of_mem_claimAll
  refine { nodup := nodup_claimAll _ _, apart := ?_, own := ?_ }
  · -- apart
    intro name hname hbase
    have hmem : "Base" ∈ reservedClassNames := by decide
    exact hreserved name hname (List.mem_singleton.1 hbase ▸ hmem)
  · -- own
    intro name hname himported
    rcases reserved_of_isImported schema options himported with h | h
    · exact hreserved name hname h
    · -- modules begin with a small letter, classes do not
      have hmodules : ∀ module ∈ hintModules, module.toList.head?.any Char.isLower = true := by
        decide
      obtain ⟨c, hc, hlower⟩ := (Option.any_eq_true ..).1 (hmodules name h)
      obtain ⟨asked, hasked, others, rfl⟩ := exists_of_mem_claimAll hname
      obtain ⟨table, _, rfl⟩ := List.mem_map.1 hasked
      have hclass := isLower_of_mem_head?_className table.name options.useSingular
      have hfree := forall_mem_head?_freeName (p := fun c => c.isLower = false) rfl hclass others
      rw [hfree c hc] at hlower
      cases hlower

theorem areFree_attributeNames [Holding] (table : Table) :
    AreFree (generate .declarative schema options).output.toList ["Base", "metadata", "registry"]
      (attributeNames table) := by
  have hreserved : ∀ name ∈ attributeNames table, name ∉ reservedAttributeNames :=
    not_mem_of_mem_claimAll
  refine { nodup := nodup_claimAll _ _, apart := ?_, own := ?_ }
  · -- apart
    intro name hname htaken
    rcases List.mem_cons.1 htaken with rfl | hbase
    · exact hreserved _ hname (by decide)
    · -- the names of the base class are no attribute names to begin with
      obtain ⟨asked, hasked, others, rfl⟩ := exists_of_mem_claimAll hname
      obtain ⟨column, _, rfl⟩ := List.mem_map.1 hasked
      have hfree := isReservedAttribute_freeName (isReservedAttribute_attributeName column.name)
        others
      rw [isReservedAttribute, Bool.or_eq_false_iff, baseAttributes] at hfree
      rw [List.contains_iff_mem.2 hbase] at hfree
      cases hfree.2
  · -- own
    intro name hname himported
    have hnames : name ∈ reservedAttributeNames :=
      List.mem_append.2 (reserved_of_isImported schema options himported)
    exact hreserved name hname hnames

end Declarative

/-! ## Variables -/

namespace TableObjects

theorem isPrefix_of_mem_variableNames {tables : List Table} :
    ∀ name ∈ variableNames tables, ['t', '_'] <+: name.toList := by
  intro name hname
  obtain ⟨asked, hasked, others, rfl⟩ := exists_of_mem_claimAll hname
  obtain ⟨table, _, rfl⟩ := List.mem_map.1 hasked
  exact (isPrefix_variableName table.name).trans (toList_isPrefix_freeName others _)

theorem areFree_variableNames [Holding] (schema : Schema) (options : Options) :
    AreFree (generate .tables schema options).output.toList ["metadata"]
      (variableNames (Dependency.sortTables schema.tables)) := by
  have hmade := isMadeOf_toModule schema options
  refine { nodup := nodup_claimAll _ _, apart := ?_, own := ?_ }
  · -- apart
    intro name hname hmetadata
    have hstart := isPrefix_of_mem_variableNames name hname
    rw [List.mem_singleton.1 hmetadata] at hstart
    revert hstart
    decide
  · -- own
    have hvocabulary : ∀ symbol ∈ vocabulary schema.dialect,
        ¬['t', '_'] <+: symbol.name.toList ∧
          ∀ module ∈ symbol.whole?, ¬['t', '_'] <+: module.toList := by
      cases schema.dialect <;> decide +kernel
    intro name hname himported
    have hstart := isPrefix_of_mem_variableNames name hname
    rcases himported with ⟨module, hmem⟩ | hmem
    · have hsymbol := hmade.vocabulary _ (hmade.mem_importedNames.1 hmem)
      exact (hvocabulary _ hsymbol).1 hstart
    · obtain ⟨symbol, hsymbol, hhome⟩ := hmade.mem_importedModules.1 hmem
      exact (hvocabulary _ (hmade.vocabulary _ hsymbol)).2 name (Symbol.mem_whole? hhome) hstart

end TableObjects

/-! ## Names of generated modules -/

/-- What is made from two lists of the same length takes its names from the second one. -/
theorem map_zipWith_right {α β γ : Type} {f : α → β → γ} {g : γ → β} (h : ∀ a b, g (f a b) = b)
    {as : List α} {bs : List β} (hlength : bs.length = as.length) :
    (List.zipWith f as bs).map g = bs := by
  rw [← List.map_uncurry_zip_eq_zipWith, List.map_map]
  have hsnd : ∀ pair ∈ as.zip bs, (g ∘ Function.uncurry f) pair = pair.2 :=
    fun pair _ => h pair.1 pair.2
  rw [List.map_congr_left hsnd]
  exact List.map_snd_zip hlength.le

/-- The names that the two modules of a schema define, and those of each class, do not collide. -/
structure HaveFreeNames [Holding] (schema : Schema) (options : Options) : Prop where
  /-- The classes of the declarative module. -/
  classes : AreFree (generate .declarative schema options).output.toList ["Base"]
    ((Declarative.classes schema options).map ClassBlock.name)
  /-- The attributes of each of its classes. -/
  attributes : ∀ block ∈ Declarative.classes schema options,
    AreFree (generate .declarative schema options).output.toList ["Base", "metadata", "registry"]
      (block.attributes.map Attribute.name)
  /-- The variables of the module of table objects. -/
  assignments : AreFree (generate .tables schema options).output.toList ["metadata"]
    ((TableObjects.blocks schema options).map TableBlock.name)

/-- Generated names never collide. -/
theorem haveFreeNames_generate [Holding] (schema : Schema) (options : Options) :
    HaveFreeNames schema options := by
  refine { classes := ?_, attributes := ?_, assignments := ?_ }
  · -- classes
    have hnames : (Declarative.classes schema options).map ClassBlock.name =
        Declarative.classNames schema options :=
      map_zipWith_right (fun _ _ => rfl) (Declarative.length_classNames schema options)
    rw [hnames]
    exact Declarative.areFree_classNames schema options
  · -- attributes
    intro block hblock
    obtain ⟨table, _, name, _, rfl⟩ := exists_of_mem_zipWith hblock
    have hnames : (Declarative.attributesOf table schema.dialect options).map Attribute.name =
        Declarative.attributeNames table :=
      map_zipWith_right (fun _ _ => rfl) (Declarative.length_attributeNames table)
    show AreFree _ _ ((Declarative.attributesOf table schema.dialect options).map Attribute.name)
    rw [hnames]
    exact Declarative.areFree_attributeNames schema options table
  · -- assignments
    have hnames : (TableObjects.blocks schema options).map TableBlock.name =
        TableObjects.variableNames (Dependency.sortTables schema.tables) :=
      map_zipWith_right (fun _ _ => rfl) (TableObjects.length_variableNames _)
    rw [hnames]
    exact TableObjects.areFree_variableNames schema options

end SchemaCodegen
