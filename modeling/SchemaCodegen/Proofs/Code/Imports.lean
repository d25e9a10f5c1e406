import SchemaCodegen.Code.Imports
import SchemaCodegen.Proofs.Code.Plain

/-!
# Proofs: what an import block holds

An import block made for some symbols holds exactly what they need. Its lines are made of the names
and modules that it holds, so plain symbols give lines of plain names.
-/

namespace SchemaCodegen.Code.Imports

open SchemaCodegen.Text

/-! ## What is recorded -/

theorem mem_foldl_insertNew {α : Type} [BEq α] [LawfulBEq α] {items new : List α} {x : α} :
    x ∈ new.foldl insertNew items ↔ x ∈ items ∨ x ∈ new := by
  induction new generalizing items with
  | nil => simp
  | cons item new ih => rw [List.foldl_cons, ih, mem_insertNew, List.mem_cons, or_assoc]

theorem mem_pairs_addSymbol {imports : Imports} {symbol : Symbol} {module name : String} :
    (module, name) ∈ (imports.addSymbol symbol).pairs ↔
      (module, name) ∈ imports.pairs ∨ symbol = ⟨.importedFrom module, name⟩ := by
  obtain ⟨home, own⟩ := symbol
  cases home with
  | builtin => simp [addSymbol]
  | importedFrom source => simp [addSymbol, addName, mem_insertNew, eq_comm]
  | memberOf whole => simp [addSymbol, addModule]

theorem mem_modules_addSymbol {imports : Imports} {symbol : Symbol} {module : String} :
    module ∈ (imports.addSymbol symbol).modules ↔
      module ∈ imports.modules ∨ symbol.home = .memberOf module := by
  obtain ⟨home, own⟩ := symbol
  cases home with
  | builtin => simp [addSymbol]
  | importedFrom source => simp [addSymbol, addName]
  | memberOf whole => simp [addSymbol, addModule, mem_insertNew, eq_comm]

/-- The names that symbols need are those of the symbols that are imported by name. -/
theorem mem_pairs_ofSymbols {symbols : List Symbol} {module name : String} :
    (module, name) ∈ (ofSymbols symbols).pairs ↔ ⟨.importedFrom module, name⟩ ∈ symbols := by
  have hfold : ∀ imports : Imports, (module, name) ∈ (symbols.foldl addSymbol imports).pairs ↔
      (module, name) ∈ imports.pairs ∨ ⟨.importedFrom module, name⟩ ∈ symbols := by
    induction symbols with
    | nil => simp
    | cons symbol symbols ih =>
      intro imports
      rw [List.foldl_cons, ih, mem_pairs_addSymbol, List.mem_cons, or_assoc, eq_comm (a := symbol)]
  simpa [ofSymbols] using hfold {}

/-- The modules that symbols need are those that some symbol is a member of. -/
theorem mem_modules_ofSymbols {symbols : List Symbol} {module : String} :
    module ∈ (ofSymbols symbols).modules ↔ ∃ symbol ∈ symbols, symbol.home = .memberOf module := by
  have hfold : ∀ imports : Imports, module ∈ (symbols.foldl addSymbol imports).modules ↔
      module ∈ imports.modules ∨ ∃ symbol ∈ symbols, symbol.home = .memberOf module := by
    induction symbols with
    | nil => simp
    | cons symbol symbols ih =>
      intro imports
      rw [List.foldl_cons, ih, mem_modules_addSymbol, or_assoc]
      simp
  simpa [ofSymbols] using hfold {}

/-! ## What is printed -/

variable {imports : Imports}

theorem mem_sorted {texts : List String} {text : String} : text ∈ sorted texts ↔ text ∈ texts := by
  rw [sorted, List.mem_mergeSort]

theorem mem_sources {module : String} :
    module ∈ imports.sources ↔ ∃ name, (module, name) ∈ imports.pairs := by
  simp [sources, mem_foldl_insertNew]

theorem mem_namesFrom {module name : String} :
    name ∈ imports.namesFrom module ↔ (module, name) ∈ imports.pairs := by
  simp [namesFrom]

/-- The lines of a block are a line for each source and one for each whole module. -/
theorem mem_lines {line : String} :
    line ∈ imports.lines ↔ (∃ module ∈ imports.sources, line = imports.sourceLine module) ∨
      ∃ module ∈ imports.modules, line = "import " ++ module := by
  simp [lines, mem_sorted, eq_comm]

theorem lines_ne_nil {module name : String} (h : (module, name) ∈ imports.pairs) :
    imports.lines ≠ [] :=
  List.ne_nil_of_mem (mem_lines.2 (Or.inl ⟨module, mem_sources.2 ⟨name, h⟩, rfl⟩))

/-- A block of plain names and modules. -/
structure IsPlain (imports : Imports) : Prop where
  /-- The modules of the names are plain. -/
  source : ∀ pair ∈ imports.pairs, Text.IsPlain pair.1
  /-- The names are plain. -/
  name : ∀ pair ∈ imports.pairs, Text.IsPlain pair.2
  /-- The modules that are imported as a whole are plain. -/
  module : ∀ module ∈ imports.modules, Text.IsPlain module

/-- What plain symbols need is plain. -/
theorem isPlain_ofSymbols {symbols : List Symbol} (h : ∀ symbol ∈ symbols, symbol.IsPlain) :
    (ofSymbols symbols).IsPlain := by
  refine { source := ?_, name := ?_, module := ?_ }
  · -- source
    intro pair hpair
    exact (h _ (mem_pairs_ofSymbols.1 hpair)).home
  · -- name
    intro pair hpair
    exact (h _ (mem_pairs_ofSymbols.1 hpair)).name
  · -- module
    intro module hmodule
    obtain ⟨symbol, hmem, hhome⟩ := mem_modules_ofSymbols.1 hmodule
    have hplain := (h symbol hmem).home
    rwa [hhome] at hplain

end SchemaCodegen.Code.Imports
