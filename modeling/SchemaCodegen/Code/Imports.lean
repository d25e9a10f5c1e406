import SchemaCodegen.Code.Expression

/-!
# The import block of a generated module

An import block is a set of pairs (module, name) and a set of modules imported as a whole. It is
printed in sorted order, so the order in which imports are recorded leaves no trace: first one line
for each module from which names are imported, with the names sorted too, then one line for each
module imported as a whole.
-/

namespace SchemaCodegen.Code

open SchemaCodegen.Text

/-- The imports that a module needs. Neither list holds anything twice. -/
structure Imports where
  /-- The names to import, each with its module. -/
  pairs : List (String × String) := []
  /-- The modules to import as a whole. -/
  modules : List String := []
  deriving DecidableEq, Repr

namespace Imports

/-- The list with the item added at its end unless it is there. -/
def insertNew {α : Type} [BEq α] (items : List α) (item : α) : List α :=
  if items.contains item then items else items ++ [item]

/-- The list holds what it held, and the item. -/
theorem mem_insertNew {α : Type} [BEq α] [LawfulBEq α] {items : List α} {item x : α} :
    x ∈ insertNew items item ↔ x ∈ items ∨ x = item := by
  rw [insertNew]
  split
  · next h =>
    exact ⟨Or.inl, fun hx => hx.elim id fun e => e ▸ List.contains_iff_mem.1 h⟩
  · simp

/-- A list without repetition stays one. -/
theorem nodup_insertNew {α : Type} [BEq α] [LawfulBEq α] {items : List α} (item : α)
    (h : items.Nodup) : (insertNew items item).Nodup := by
  rw [insertNew]
  split
  · exact h
  · next hc =>
    refine List.nodup_append.2 ⟨h, by simp, fun a ha b hb => ?_⟩
    rw [List.mem_singleton.1 hb]
    exact fun e => hc (List.contains_iff_mem.2 (e ▸ ha))

/-- Records the import of a name from a module. -/
def addName (imports : Imports) (module name : String) : Imports :=
  { imports with pairs := insertNew imports.pairs (module, name) }

/-- Records the import of a whole module. -/
def addModule (imports : Imports) (module : String) : Imports :=
  { imports with modules := insertNew imports.modules module }

/-- Records the import that a symbol needs. -/
def addSymbol (imports : Imports) (symbol : Symbol) : Imports :=
  match symbol.home with
  | .builtin => imports
  | .importedFrom module => imports.addName module symbol.name
  | .memberOf module => imports.addModule module

/-- Records the imports of several names, each given with its module. -/
def addNames (imports : Imports) (pairs : List (String × String)) : Imports :=
  pairs.foldl (fun acc pair => acc.addName pair.1 pair.2) imports

/-- The imports that the given symbols need. -/
def ofSymbols (symbols : List Symbol) : Imports :=
  symbols.foldl addSymbol {}

/-- Whether the name is imported from the module. -/
def contains (imports : Imports) (module name : String) : Bool :=
  imports.pairs.contains (module, name)

/-- The number of names and whole modules. -/
def size (imports : Imports) : Nat :=
  imports.pairs.length + imports.modules.length

/-- Texts in increasing order by code points. -/
def sorted (texts : List String) : List String :=
  texts.mergeSort fun a b => decide (a ≤ b)

/-- The modules from which names are imported. -/
def sources (imports : Imports) : List String :=
  (imports.pairs.map (·.1)).foldl insertNew []

/-- The names imported from a module. -/
def namesFrom (imports : Imports) (module : String) : List String :=
  (imports.pairs.filter fun pair => pair.1 == module).map (·.2)

/-- The line that imports names from a module. -/
def sourceLine (imports : Imports) (module : String) : String :=
  "from " ++ module ++ " import " ++ commaSeparated (sorted (imports.namesFrom module))

/-- The lines of the block. -/
def lines (imports : Imports) : List String :=
  (sorted imports.sources).map imports.sourceLine ++
    (sorted imports.modules).map fun module => "import " ++ module

/-- The text of the block, without a line feed at its end. -/
def render (imports : Imports) : String :=
  joinLines imports.lines

/-- A short description: how many modules names come from, and how many are imported whole. -/
def describe (imports : Imports) : String :=
  "<ImportCollector " ++ toString imports.sources.length ++ " modules, " ++
    toString imports.modules.length ++ " bare>"

end Imports

end SchemaCodegen.Code
