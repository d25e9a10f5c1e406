import SchemaCodegen.Generation
import SchemaCodegen.Proofs.Code.ImportLines
import SchemaCodegen.Proofs.Style.Words

/-!
# Proofs: imports are closed and tight

What the code of a generated module uses is imported, defined by the module or known without either,
and what the module imports is used in its code. Both are read off the generated text: the imports
from the lines before the first empty one, the uses from what follows.
-/

namespace SchemaCodegen

open SchemaCodegen.Text SchemaCodegen.Code SchemaCodegen.Code.Vocabulary

namespace Code

variable {dialect : Dialect} {symbols : List Symbol}

/-- What symbols of a vocabulary need can be read back. -/
theorem Imports.isReadable_ofSymbols (h : ∀ symbol ∈ symbols, symbol ∈ vocabulary dialect) :
    (Imports.ofSymbols symbols).IsReadable := by
  have hsources : ∀ module ∈ sourceModules, IsOneWord module := by decide
  refine { source := ?_, name := ?_, module := ?_ }
  · -- source
    intro pair hpair
    have hsymbol := h _ (mem_pairs_ofSymbols.1 hpair)
    exact hsources _ (source_of_mem_vocabulary _ hsymbol _ rfl)
  · -- name
    intro pair hpair
    have hword := isWord_of_mem_vocabulary _ (h _ (mem_pairs_ofSymbols.1 hpair))
    exact isOneWord_of_isName hword.name_ne hword.name
  · -- module
    intro module hmodule
    obtain ⟨symbol, hmem, hhome⟩ := mem_modules_ofSymbols.1 hmodule
    have hword := isWord_of_mem_vocabulary _ (h symbol hmem)
    have hwhole := Symbol.mem_whole? hhome
    exact isOneWord_of_isName (hword.whole_ne module hwhole) (hword.whole module hwhole)

/-! ## Uses of a module -/

/-- Sections that are read one after another are what follows the import lines. -/
theorem Module.usesOf_bodyOf {m : Module} (h : ∀ lines ∈ m.sections, IsSection lines)
    {uses : List (List Use)}
    (hreads : List.Forall₂ (Reads []) ((m.preamble :: m.blocks).map joinLines) uses) :
    usesOf (bodyOf m.render.toList) = uses.flatten := by
  have hfeed : Reads [] "\n" [] := reads_gap (show IsGap "\n" from rfl)
  have hsections : Reads [] ("\n\n".intercalate ((m.preamble :: m.blocks).map joinLines))
      uses.flatten :=
    Reads.intercalate (c := '\n') (show IsGap "\n\n" from rfl) rfl (by decide +kernel) hreads
  have hbody := (hsections.append hfeed (breaks_cons (by decide +kernel) [])).gap_append
    (show IsGap "\n" from rfl)
  rw [bodyOf_render h, usesOf_of_reads hbody, List.append_nil]

/-- A section of a module that is read as the given uses. They come from what the module defines,
from what it always imports and from the symbols of the section, which are all used. -/
structure IsSectionOf (defined : List String) (fixed symbols : List Symbol) (lines : List String)
    (uses : List Use) : Prop where
  /-- The section is read as the uses. -/
  reads : Reads [] (joinLines lines) uses
  /-- Each of them comes from somewhere. -/
  known : ∀ use ∈ uses, use.IsFrom defined (fixed ++ symbols)
  /-- The symbols are used. -/
  used : ∀ symbol ∈ symbols, ∀ use ∈ symbol.uses, use ∈ uses

/-- A module that imports what some symbols need, those that it always imports and those that its
code mentions, and whose code is made of these and of what it defines. -/
structure Module.IsMadeOf (m : Module) (dialect : Dialect) (defined : List String)
    (fixed mentioned : List Symbol) : Prop where
  /-- The sections have lines. -/
  sections : ∀ lines ∈ m.sections, IsSection lines
  /-- The import block is the one for the symbols. -/
  imports : m.imports = Imports.ofSymbols (fixed ++ mentioned)
  /-- They are symbols of the vocabulary. -/
  vocabulary : ∀ symbol ∈ fixed ++ mentioned, symbol ∈ vocabulary dialect
  /-- Whatever the code uses comes from them or is defined. -/
  known : ∀ use ∈ usesOf (bodyOf m.render.toList), use.IsFrom defined (fixed ++ mentioned)
  /-- The symbols that the code mentions are used. -/
  used : ∀ symbol ∈ mentioned, ∀ use ∈ symbol.uses, use ∈ usesOf (bodyOf m.render.toList)

/-- A module is made of what its sections are made of. -/
theorem Module.isMadeOf_of_blocks {α : Type} {m : Module} {dialect : Dialect}
    {defined : List String} {fixed : List Symbol} {blocks : List α} {lines : α → List String}
    {symbols : α → List Symbol} {uses : α → List Use} {preambleUses : List Use}
    (hsections : ∀ lines ∈ m.sections, IsSection lines) (hlines : m.blocks = blocks.map lines)
    (himports : m.imports = Imports.ofSymbols (fixed ++ blocks.flatMap symbols))
    (hvocabulary : ∀ symbol ∈ fixed ++ blocks.flatMap symbols, symbol ∈ Code.vocabulary dialect)
    (hpreamble : IsSectionOf defined fixed [] m.preamble preambleUses)
    (hblocks : ∀ block ∈ blocks,
      IsSectionOf defined fixed (symbols block) (lines block) (uses block)) :
    m.IsMadeOf dialect defined fixed (blocks.flatMap symbols) := by
  have hreads : List.Forall₂ (Reads []) ((m.preamble :: m.blocks).map joinLines)
      (preambleUses :: blocks.map uses) := by
    rw [hlines, List.map_cons, List.map_map]
    exact .cons hpreamble.reads (forall₂_reads fun block hblock => (hblocks block hblock).reads)
  have huses : usesOf (bodyOf m.render.toList) = preambleUses ++ blocks.flatMap uses := by
    rw [usesOf_bodyOf hsections hreads, List.flatten_cons, ← List.flatMap_def]
  refine { sections := hsections, imports := himports, vocabulary := hvocabulary, known := ?_,
           used := ?_ }
  · -- known
    rw [huses]
    refine List.forall_mem_append.2 ⟨fun use huse => ?_, ?_⟩
    · exact (hpreamble.known use huse).mono (fun _ hmem => hmem) (by simp)
    · refine List.forall_mem_flatMap.2 fun block hblock use huse => ?_
      refine ((hblocks block hblock).known use huse).mono (fun _ hmem => hmem) ?_
      refine List.append_subset.2 ⟨List.subset_append_left _ _, fun symbol hsymbol => ?_⟩
      exact List.mem_append_right _ (List.mem_flatMap.2 ⟨block, hblock, hsymbol⟩)
  · -- used
    intro symbol hsymbol use huse
    obtain ⟨block, hblock, hsymbol⟩ := List.mem_flatMap.1 hsymbol
    rw [huses]
    exact List.mem_append_right _
      (List.mem_flatMap.2 ⟨block, hblock, (hblocks block hblock).used symbol hsymbol use huse⟩)

end Code

namespace Declarative

variable (schema : Schema) (options : Options)

/-- The names that a declarative module defines. -/
def definedNames : List String :=
  ["Base", "__tablename__", "__table_args__"] ++ classNames schema options ++
    schema.tables.flatMap attributeNames

theorem names_subset_definedNames :
    ∀ block ∈ classes schema options, block.names ⊆ definedNames schema options := by
  intro block hblock name hname
  obtain ⟨table, htable, className, hclass, rfl⟩ := exists_of_mem_zipWith hblock
  unfold definedNames
  rw [List.mem_append, List.mem_append]
  rcases List.mem_append.1 hname with hname | hname
  · have hfront : name ∈ ["Base", "__tablename__", "__table_args__"] ++ [className] := hname
    rcases List.mem_append.1 hfront with hfront | hfront
    · exact Or.inl (Or.inl hfront)
    · exact Or.inl (Or.inr (List.mem_singleton.1 hfront ▸ hclass))
  · obtain ⟨a, ha, rfl⟩ := List.mem_map.1 hname
    obtain ⟨column, _, attributeName, hattribute, rfl⟩ := exists_of_mem_zipWith ha
    exact Or.inr (List.mem_flatMap.2 ⟨table, htable, hattribute⟩)

/-- What the class that all others are made from uses. -/
def baseUses : List Use :=
  nameUses "class" ++ nameUses "Base" ++ nameUses "DeclarativeBase" ++ nameUses "pass"

theorem isSectionOf_base :
    IsSectionOf (definedNames schema options) fixedSymbols []
      ["class Base(DeclarativeBase):", indent ++ "pass"] baseUses := by
  have hline : "class Base(DeclarativeBase):" =
      "class " ++ "Base" ++ "(" ++ "DeclarativeBase" ++ "):" := by decide
  have hclass : Reads [] "class Base(DeclarativeBase):"
      (nameUses "class" ++ nameUses "Base" ++ nameUses "DeclarativeBase") := by
    rw [hline]
    exact reads_classLine (by decide +kernel) (by decide +kernel)
  have hpass : Reads [] (indent ++ "pass") (nameUses "pass") :=
    (reads_name (by decide)).gap_append (show IsGap indent from rfl)
  refine { reads := reads_joinLines (.cons hclass (.cons hpass .nil)), known := ?_,
           used := List.forall_mem_nil _ }
  have hbase : orm "DeclarativeBase" ∈ fixedSymbols ++ [] := List.mem_cons_self ..
  unfold baseUses
  simp only [List.forall_mem_append]
  exact ⟨⟨⟨isFrom_of_keyword (by decide), isFrom_of_mem_defined (by simp [definedNames])⟩,
    isFrom_of_mem_symbols hbase⟩, isFrom_of_keyword (by decide)⟩

theorem isMadeOf_toModule :
    (toModule schema options).IsMadeOf schema.dialect (definedNames schema options) fixedSymbols
      ((classes schema options).flatMap ClassBlock.symbols) := by
  have hblocks : ∀ block ∈ classes schema options, IsSectionOf (definedNames schema options)
      fixedSymbols block.symbols block.lines block.uses.flatten := by
    intro block hblock
    have hspoken := isSpoken_classes schema options block hblock
    refine { reads := hspoken.reads, known := fun use huse => ?_,
             used := fun symbol hsymbol use huse => hspoken.mem_uses hsymbol huse }
    exact (hspoken.isFrom use huse).mono (names_subset_definedNames schema options block hblock)
      (List.subset_append_right _ _)
  exact Module.isMadeOf_of_blocks (isSection_of_mem_sections schema options) rfl rfl
    (mem_vocabulary_of_mem_symbols schema options) (isSectionOf_base schema options) hblocks

end Declarative

namespace TableObjects

variable (schema : Schema) (options : Options)

/-- The names that a module of table objects defines. -/
def definedNames : List String :=
  "metadata" :: variableNames (Dependency.sortTables schema.tables)

theorem names_subset_definedNames :
    ∀ block ∈ blocks schema options, block.names ⊆ definedNames schema := by
  intro block hblock name hname
  obtain ⟨table, _, variableName, hvariable, rfl⟩ := exists_of_mem_zipWith hblock
  rcases List.mem_pair.1 hname with rfl | rfl
  · exact List.mem_cons_self ..
  · exact List.mem_cons_of_mem _ hvariable

/-- What the collection of tables uses. -/
def metadataUses : List Use :=
  nameUses "metadata" ++ nameUses "MetaData"

theorem isSectionOf_metadata :
    IsSectionOf (definedNames schema) fixedSymbols [] ["metadata = MetaData()"] metadataUses := by
  have hname : Reads [] "metadata" (nameUses "metadata") := reads_name (by decide)
  have hcallee : Reads [] "MetaData" (nameUses "MetaData") := reads_name (by decide)
  have hempty : Reads [')'] "" [] := reads_gap (show IsGap "" from rfl)
  have hboth := hname.beside hcallee (show IsGap " = " from rfl) (by decide +kernel)
  have hline : joinLines ["metadata = MetaData()"] =
      "metadata" ++ " = " ++ "MetaData" ++ ("(" ++ "" ++ ")") := by decide
  have hread := hboth.append hempty.round (breaks_cons (by decide +kernel) [')'])
  rw [List.append_nil, ← hline] at hread
  refine { reads := hread, known := ?_, used := List.forall_mem_nil _ }
  have hmetadata : core "MetaData" ∈ fixedSymbols ++ [] := List.mem_cons_self ..
  exact List.forall_mem_append.2
    ⟨isFrom_of_mem_defined (by simp [definedNames]), isFrom_of_mem_symbols hmetadata⟩

theorem isMadeOf_toModule :
    (toModule schema options).IsMadeOf schema.dialect (definedNames schema) fixedSymbols
      ((blocks schema options).flatMap TableBlock.symbols) := by
  have hblocks : ∀ block ∈ blocks schema options, IsSectionOf (definedNames schema)
      fixedSymbols block.symbols block.lines block.uses := by
    intro block hblock
    have hspoken := isSpoken_blocks schema options block hblock
    have hkind : core "Table" ∈ fixedSymbols := by decide
    have hsymbols : core "Table" :: block.symbols ⊆ fixedSymbols ++ block.symbols :=
      List.cons_subset.2 ⟨List.mem_append_left _ hkind, List.subset_append_right _ _⟩
    have hknown : ∀ use ∈ block.uses,
        use.IsFrom (definedNames schema) (fixedSymbols ++ block.symbols) := by
      intro use huse
      have hfrom := hspoken.isFrom use huse
      exact hfrom.mono (names_subset_definedNames schema options block hblock) hsymbols
    exact
      { reads := hspoken.reads
        known := hknown
        used := fun symbol hsymbol use huse => hspoken.mem_uses hsymbol huse }
  have himports : (toModule schema options).imports =
      Imports.ofSymbols (fixedSymbols ++ (blocks schema options).flatMap TableBlock.symbols) := by
    dsimp only [toModule]
  exact Module.isMadeOf_of_blocks (isSection_of_mem_sections schema options) rfl himports
    (mem_vocabulary_of_mem_symbols schema options) (isSectionOf_metadata schema) hblocks

end TableObjects

/-! ## Generated text -/

namespace Code

/-- Whether a text imports a name, from a module or as one. -/
def IsImported (cs : List Char) (name : String) : Prop :=
  (∃ module, (module, name) ∈ importedNames cs) ∨ name ∈ importedModules cs

/-- A text that imports what it uses and uses what it imports, given the names that it defines and
those that it always imports. -/
structure ImportsWhatItUses (cs : List Char) (defined fixed : List String) : Prop where
  /-- The lines before the first empty one are imports. -/
  block : ∀ line ∈ importLines cs, namesImported line ≠ [] ∨ modulesImported line ≠ []
  /-- Whatever the rest of the text writes outside literals is a number, a member of something, the
  name of an argument, a keyword, a type that is always known, or is defined or imported. -/
  closed : ∀ use ∈ usesOf (bodyOf cs),
    use.isNumber = true ∨ use.isMember = true ∨ use.isArgument = true ∨
      use.text ∈ Naming.keywords ∨ use.text ∈ builtinTypes ∨ use.text ∈ defined ∨
      IsImported cs use.text
  /-- Whatever is imported is used by itself, or is always imported. -/
  tight : ∀ name, IsImported cs name → name ∉ fixed →
    ∃ use ∈ usesOf (bodyOf cs), use.text = name ∧ use.isMember = false ∧ use.isArgument = false
  /-- No name is imported from two modules. -/
  single : ∀ name module other, (module, name) ∈ importedNames cs →
    (other, name) ∈ importedNames cs → module = other
  /-- No name that is imported from a module is also a module that is imported as a whole. -/
  apart : ∀ name module, (module, name) ∈ importedNames cs → name ∉ importedModules cs

namespace Module.IsMadeOf

variable {m : Module} {dialect : Dialect} {defined : List String} {fixed mentioned : List Symbol}

theorem isReadable (h : m.IsMadeOf dialect defined fixed mentioned) : m.imports.IsReadable := by
  rw [h.imports]
  exact Imports.isReadable_ofSymbols h.vocabulary

theorem mem_importedNames (h : m.IsMadeOf dialect defined fixed mentioned) {module name : String} :
    (module, name) ∈ importedNames m.render.toList ↔
      ⟨.importedFrom module, name⟩ ∈ fixed ++ mentioned := by
  unfold importedNames
  rw [importLines_render h.sections, h.isReadable.mem_namesImported, h.imports,
    Imports.mem_pairs_ofSymbols]

theorem mem_importedModules (h : m.IsMadeOf dialect defined fixed mentioned) {module : String} :
    module ∈ importedModules m.render.toList ↔
      ∃ symbol ∈ fixed ++ mentioned, symbol.home = .memberOf module := by
  unfold importedModules
  rw [importLines_render h.sections, h.isReadable.mem_modulesImported, h.imports,
    Imports.mem_modules_ofSymbols]

/-- A use of a symbol that is not known without an import is accounted for by the imports. -/
theorem isImported_of_mem_uses (h : m.IsMadeOf dialect defined fixed mentioned)
    {symbol : Symbol} (hsymbol : symbol ∈ fixed ++ mentioned) {use : Use}
    (huse : use ∈ symbol.uses) :
    use.isMember = true ∨ use.text ∈ builtinTypes ∨ IsImported m.render.toList use.text := by
  have hbuiltin := mem_builtinTypes_of_mem_vocabulary symbol (h.vocabulary symbol hsymbol)
  have htext : ∀ name : String, Use.text ⟨name.toList, false, false⟩ = name :=
    fun name => String.ofList_toList
  obtain ⟨home, name⟩ := symbol
  cases home with
  | builtin =>
    rw [List.mem_singleton.1 huse, htext]
    exact Or.inr (Or.inl (hbuiltin rfl))
  | importedFrom module =>
    rw [List.mem_singleton.1 huse, htext]
    exact Or.inr (Or.inr (Or.inl ⟨module, h.mem_importedNames.2 hsymbol⟩))
  | memberOf module =>
    rcases List.mem_pair.1 huse with rfl | rfl
    · rw [htext]
      exact Or.inr (Or.inr (Or.inr (h.mem_importedModules.2 ⟨_, hsymbol, rfl⟩)))
    · exact Or.inl rfl

/-- What is imported is a symbol that is used by itself where it is mentioned. -/
theorem exists_of_isImported (h : m.IsMadeOf dialect defined fixed mentioned)
    {name : String} (himported : IsImported m.render.toList name) :
    ∃ symbol ∈ fixed ++ mentioned, ⟨name.toList, false, false⟩ ∈ symbol.uses ∧
      (symbol.source?.isSome → symbol.name = name) := by
  rcases himported with ⟨module, hmem⟩ | hmem
  · exact ⟨_, h.mem_importedNames.1 hmem, List.mem_singleton_self _, fun _ => rfl⟩
  · obtain ⟨symbol, hsymbol, hhome⟩ := h.mem_importedModules.1 hmem
    refine ⟨symbol, hsymbol, ?_, fun hsource => ?_⟩
    · unfold Symbol.uses
      rw [hhome]
      exact List.mem_cons_self ..
    · unfold Symbol.source? at hsource
      rw [hhome] at hsource
      cases hsource

/-- Such a module imports what it uses and uses what it imports. -/
theorem importsWhatItUses (h : m.IsMadeOf dialect defined fixed mentioned)
    (hfixed : ∀ symbol ∈ fixed, symbol.source?.isSome = true) :
    ImportsWhatItUses m.render.toList defined (fixed.map Symbol.name) := by
  refine { block := ?_, closed := ?_, tight := ?_, single := ?_, apart := ?_ }
  · -- block
    rw [importLines_render h.sections]
    exact h.isReadable.imports_something
  · -- closed
    intro use huse
    rcases h.known use huse with (hnumber | hargument | hkeyword) | hdefined |
      ⟨symbol, hsymbol, hin⟩
    · exact Or.inl hnumber
    · exact Or.inr (Or.inr (Or.inl hargument))
    · exact Or.inr (Or.inr (Or.inr (Or.inl hkeyword)))
    · exact Or.inr (Or.inr (Or.inr (Or.inr (Or.inr (Or.inl hdefined)))))
    · rcases h.isImported_of_mem_uses hsymbol hin with hmember | hbuiltin | himported
      · exact Or.inr (Or.inl hmember)
      · exact Or.inr (Or.inr (Or.inr (Or.inr (Or.inl hbuiltin))))
      · exact Or.inr (Or.inr (Or.inr (Or.inr (Or.inr (Or.inr himported)))))
  · -- tight
    intro name himported hname
    obtain ⟨symbol, hsymbol, huse, hsource⟩ := h.exists_of_isImported himported
    have hmentioned : symbol ∈ mentioned := by
      rcases List.mem_append.1 hsymbol with hmem | hmem
      · exact absurd (List.mem_map.2 ⟨symbol, hmem, hsource (hfixed symbol hmem)⟩) hname
      · exact hmem
    exact ⟨_, h.used symbol hmentioned _ huse, String.ofList_toList, rfl, rfl⟩
  · -- single
    intro name module other hmodule hother
    have hone := h.vocabulary _ (h.mem_importedNames.1 hmodule)
    have htwo := h.vocabulary _ (h.mem_importedNames.1 hother)
    have hsame := eq_of_name_eq _ hone _ htwo rfl rfl rfl
    cases hsame
    rfl
  · -- apart
    intro name module hmodule hwhole
    obtain ⟨symbol, hsymbol, hhome⟩ := h.mem_importedModules.1 hwhole
    have hname := h.vocabulary _ (h.mem_importedNames.1 hmodule)
    exact name_ne_whole _ hname symbol (h.vocabulary symbol hsymbol) rfl name
      (Symbol.mem_whole? hhome) rfl

end Module.IsMadeOf

end Code

/-- The names that a module of the style defines. -/
def Style.definedNames (style : Style) (schema : Schema) (options : Options) : List String :=
  match style with
  | .declarative => Declarative.definedNames schema options
  | .tables => TableObjects.definedNames schema

/-- The names that every module of the style imports. -/
def Style.fixedNames : Style → List String
  | .declarative => ["DeclarativeBase", "Mapped", "mapped_column"]
  | .tables => ["MetaData", "Table", "Column"]

/-- A generated text imports what it uses and uses what it imports. -/
theorem importsWhatItUses_generate [Holding] (style : Style) (schema : Schema) (options : Options) :
    ImportsWhatItUses (generate style schema options).output.toList
      (style.definedNames schema options) style.fixedNames := by
  cases style with
  | declarative =>
    have hfixed : ∀ symbol ∈ Declarative.fixedSymbols, symbol.source?.isSome = true := by decide
    exact (Declarative.isMadeOf_toModule schema options).importsWhatItUses hfixed
  | tables =>
    have hfixed : ∀ symbol ∈ TableObjects.fixedSymbols, symbol.source?.isSome = true := by decide
    exact (TableObjects.isMadeOf_toModule schema options).importsWhatItUses hfixed

end SchemaCodegen
