import SchemaCodegen.Proofs.Code.Imports
import SchemaCodegen.Proofs.Code.Layout

/-!
# Proofs: reading import lines back

A reader of a generated module finds its imports in the lines before the first empty one, by the
words of each line alone. What is read off the lines of an import block is what the block holds.
-/

namespace SchemaCodegen.Code

open SchemaCodegen.Text

/-! ## Words -/

/-- Whether a character stands between words. -/
def isWordEnd (c : Char) : Bool :=
  c == ' ' || c == ','

/-- The words of a line. -/
def wordsOf (line : List Char) : List String :=
  ((line.splitOnP isWordEnd).filter (!·.isEmpty)).map String.ofList

/-- A text that is one word. -/
structure IsOneWord (text : String) : Prop where
  /-- There is something. -/
  ne : text ≠ ""
  /-- No character stands between words. -/
  solid : IsMadeOf (!isWordEnd ·) text

instance (text : String) : Decidable (IsOneWord text) :=
  decidable_of_iff (text ≠ "" ∧ IsMadeOf (!isWordEnd ·) text)
    ⟨fun h => ⟨h.1, h.2⟩, fun h => ⟨h.ne, h.solid⟩⟩

theorem isOneWord_of_isName {name : String} (hne : name ≠ "") (h : IsName name) :
    IsOneWord name := by
  have hblank : isNameChar ' ' = false := by decide +kernel
  have hcomma : isNameChar ',' = false := by decide +kernel
  refine { ne := hne, solid := h.mono fun c hc => ?_ }
  unfold isWordEnd
  rw [Bool.not_eq_true', Bool.or_eq_false_iff, beq_eq_false_iff_ne, beq_eq_false_iff_ne]
  constructor
  · rintro rfl
    exact Bool.noConfusion (hblank.symm.trans hc)
  · rintro rfl
    exact Bool.noConfusion (hcomma.symm.trans hc)

section Words

variable {word : String}

theorem IsOneWord.isWordEnd_eq_false (h : IsOneWord word) :
    ∀ c ∈ word.toList, isWordEnd c = false := by
  intro c hc
  simpa using h.solid c hc

/-- The end of a word is not a word. -/
theorem wordsOf_cons {c : Char} (h : isWordEnd c = true) (rest : List Char) :
    wordsOf (c :: rest) = wordsOf rest := by
  have hsplit := List.splitOnP_append_cons_of_forall_mem
    (fun d (hd : d ∈ ([] : List Char)) => absurd hd List.not_mem_nil) c h rest
  unfold wordsOf
  rw [List.nil_append] at hsplit
  rw [hsplit]
  rfl

/-- A line that begins with a word has it as its first word. -/
theorem IsOneWord.wordsOf_append (h : IsOneWord word) {c : Char} (hc : isWordEnd c = true)
    (rest : List Char) : wordsOf (word.toList ++ c :: rest) = word :: wordsOf rest := by
  have hne : word.toList ≠ [] := by simpa using h.ne
  unfold wordsOf
  rw [List.splitOnP_append_cons_of_forall_mem h.isWordEnd_eq_false c hc rest,
    List.filter_cons_of_pos (by simpa using hne), List.map_cons, String.ofList_toList]

theorem IsOneWord.wordsOf_toList (h : IsOneWord word) : wordsOf word.toList = [word] := by
  have hne : word.toList ≠ [] := by simpa using h.ne
  unfold wordsOf
  rw [List.splitOnP_eq_singleton h.isWordEnd_eq_false, List.filter_cons_of_pos (by simpa using hne)]
  simp

/-- The words of a list with commas are its items. -/
theorem wordsOf_commaSeparated {names : List String} (h : ∀ name ∈ names, IsOneWord name) :
    wordsOf (commaSeparated names).toList = names := by
  induction names with
  | nil => decide
  | cons name names ih =>
    rw [List.forall_mem_cons] at h
    cases names with
    | nil => simpa [commaSeparated] using h.1.wordsOf_toList
    | cons next names =>
      have hcomma : (commaSeparated (name :: next :: names)).toList =
          name.toList ++ ',' :: ' ' :: (commaSeparated (next :: names)).toList := by
        simp [commaSeparated]
      rw [hcomma, h.1.wordsOf_append rfl, wordsOf_cons rfl, ih h.2]

end Words

/-! ## What a line imports -/

/-- The names that a line imports, each with its module. -/
def namesImported (line : List Char) : List (String × String) :=
  match wordsOf line with
  | first :: module :: second :: names =>
    if first = "from" ∧ second = "import" then names.map fun name => (module, name) else []
  | _ => []

/-- The modules that a line imports as a whole. -/
def modulesImported (line : List Char) : List String :=
  match wordsOf line with
  | first :: modules => if first = "import" then modules else []
  | [] => []

namespace Imports

/-- A block whose names and modules are words. -/
structure IsReadable (imports : Imports) : Prop where
  /-- The modules of the names are. -/
  source : ∀ pair ∈ imports.pairs, IsOneWord pair.1
  /-- The names are. -/
  name : ∀ pair ∈ imports.pairs, IsOneWord pair.2
  /-- The modules that are imported as a whole are. -/
  module : ∀ module ∈ imports.modules, IsOneWord module

variable {imports : Imports}

theorem IsReadable.wordsOf_sourceLine (h : imports.IsReadable) {module : String}
    (hmodule : module ∈ imports.sources) :
    wordsOf (imports.sourceLine module).toList =
      "from" :: module :: "import" :: sorted (imports.namesFrom module) := by
  obtain ⟨name, hpair⟩ := mem_sources.1 hmodule
  have hfrom : IsOneWord "from" := by decide
  have himport : IsOneWord "import" := by decide
  have hnames : ∀ name ∈ sorted (imports.namesFrom module), IsOneWord name := by
    intro name hname
    exact h.name _ (mem_namesFrom.1 (mem_sorted.1 hname))
  have hline : (imports.sourceLine module).toList =
      "from".toList ++ ' ' :: (module.toList ++ ' ' :: ("import".toList ++
        ' ' :: (commaSeparated (sorted (imports.namesFrom module))).toList)) := by
    simp [sourceLine]
  rw [hline, hfrom.wordsOf_append rfl, (h.source _ hpair).wordsOf_append rfl,
    himport.wordsOf_append rfl, wordsOf_commaSeparated hnames]

theorem IsReadable.wordsOf_moduleLine (h : imports.IsReadable) {module : String}
    (hmodule : module ∈ imports.modules) :
    wordsOf ("import " ++ module).toList = ["import", module] := by
  have himport : IsOneWord "import" := by decide
  have hline : ("import " ++ module).toList = "import".toList ++ ' ' :: module.toList := by
    simp
  rw [hline, himport.wordsOf_append rfl, (h.module module hmodule).wordsOf_toList]

section Lines

variable {module : String}

theorem IsReadable.namesImported_sourceLine (h : imports.IsReadable)
    (hmodule : module ∈ imports.sources) :
    namesImported (imports.sourceLine module).toList =
      (sorted (imports.namesFrom module)).map fun name => (module, name) := by
  unfold namesImported
  rw [h.wordsOf_sourceLine hmodule]
  rfl

theorem IsReadable.namesImported_moduleLine (h : imports.IsReadable)
    (hmodule : module ∈ imports.modules) : namesImported ("import " ++ module).toList = [] := by
  unfold namesImported
  rw [h.wordsOf_moduleLine hmodule]

theorem IsReadable.modulesImported_sourceLine (h : imports.IsReadable)
    (hmodule : module ∈ imports.sources) :
    modulesImported (imports.sourceLine module).toList = [] := by
  unfold modulesImported
  rw [h.wordsOf_sourceLine hmodule]
  rfl

theorem IsReadable.modulesImported_moduleLine (h : imports.IsReadable)
    (hmodule : module ∈ imports.modules) :
    modulesImported ("import " ++ module).toList = [module] := by
  unfold modulesImported
  rw [h.wordsOf_moduleLine hmodule]
  rfl

end Lines

/-- The names that the lines of a block import are those that it holds. -/
theorem IsReadable.mem_namesImported (h : imports.IsReadable) {module name : String} :
    (module, name) ∈ (imports.lines.map String.toList).flatMap namesImported ↔
      (module, name) ∈ imports.pairs := by
  constructor
  · intro hmem
    obtain ⟨line, hline, hmem⟩ := List.mem_flatMap.1 hmem
    obtain ⟨text, htext, rfl⟩ := List.mem_map.1 hline
    rcases mem_lines.1 htext with ⟨source, hin, rfl⟩ | ⟨whole, hin, rfl⟩
    · rw [h.namesImported_sourceLine hin, List.mem_map] at hmem
      obtain ⟨other, hother, he⟩ := hmem
      cases he
      exact mem_namesFrom.1 (mem_sorted.1 hother)
    · rw [h.namesImported_moduleLine hin] at hmem
      cases hmem
  · intro hpair
    have hin : module ∈ imports.sources := mem_sources.2 ⟨name, hpair⟩
    have hline : imports.sourceLine module ∈ imports.lines :=
      mem_lines.2 (Or.inl ⟨module, hin, rfl⟩)
    refine List.mem_flatMap.2 ⟨_, List.mem_map_of_mem hline, ?_⟩
    rw [h.namesImported_sourceLine hin]
    exact List.mem_map_of_mem (mem_sorted.2 (mem_namesFrom.2 hpair))

/-- The modules that the lines of a block import as a whole are those that it holds. -/
theorem IsReadable.mem_modulesImported (h : imports.IsReadable) {module : String} :
    module ∈ (imports.lines.map String.toList).flatMap modulesImported ↔
      module ∈ imports.modules := by
  constructor
  · intro hmem
    obtain ⟨line, hline, hmem⟩ := List.mem_flatMap.1 hmem
    obtain ⟨text, htext, rfl⟩ := List.mem_map.1 hline
    rcases mem_lines.1 htext with ⟨source, hin, rfl⟩ | ⟨whole, hin, rfl⟩
    · rw [h.modulesImported_sourceLine hin] at hmem
      cases hmem
    · rw [h.modulesImported_moduleLine hin, List.mem_singleton] at hmem
      rwa [hmem]
  · intro hin
    have hline : "import " ++ module ∈ imports.lines := mem_lines.2 (Or.inr ⟨module, hin, rfl⟩)
    refine List.mem_flatMap.2 ⟨_, List.mem_map_of_mem hline, ?_⟩
    rw [h.modulesImported_moduleLine hin]
    exact List.mem_singleton_self module

/-- Every line of a block imports something. -/
theorem IsReadable.imports_something (h : imports.IsReadable) :
    ∀ line ∈ imports.lines.map String.toList,
      namesImported line ≠ [] ∨ modulesImported line ≠ [] := by
  intro line hline
  obtain ⟨text, htext, rfl⟩ := List.mem_map.1 hline
  rcases mem_lines.1 htext with ⟨source, hin, rfl⟩ | ⟨whole, hin, rfl⟩
  · obtain ⟨name, hpair⟩ := mem_sources.1 hin
    refine Or.inl (List.ne_nil_of_mem (a := (source, name)) ?_)
    rw [h.namesImported_sourceLine hin]
    exact List.mem_map_of_mem (mem_sorted.2 (mem_namesFrom.2 hpair))
  · refine Or.inr ?_
    rw [h.modulesImported_moduleLine hin]
    exact List.cons_ne_nil _ _

end Imports

/-! ## The import lines of a module -/

/-- The import lines of a text: those before its first empty line. -/
def importLines (cs : List Char) : List (List Char) :=
  (linesOf cs).takeWhile (!·.isEmpty)

/-- The names that a text imports, each with its module. -/
def importedNames (cs : List Char) : List (String × String) :=
  (importLines cs).flatMap namesImported

/-- The modules that a text imports as a whole. -/
def importedModules (cs : List Char) : List String :=
  (importLines cs).flatMap modulesImported

/-- What follows the import lines of a text. -/
def bodyOf (cs : List Char) : List Char :=
  ((linesOf cs).dropWhile (!·.isEmpty)).flatMap (· ++ ['\n'])

namespace Module

variable {m : Module}

/-- The lines of a module are those of the import block, an empty line, and the lines of the other
sections. -/
theorem lines_eq (m : Module) :
    m.lines = m.imports.lines ++ "" :: [""].intercalate (m.preamble :: m.blocks) := by
  unfold lines sections
  rw [List.intercalate_cons_cons, List.append_assoc, List.singleton_append]

theorem isEmpty_eq_false_of_mem_lines (imports : Imports) :
    ∀ line ∈ imports.lines.map String.toList, (!line.isEmpty) = true := by
  intro line hline
  obtain ⟨text, htext, rfl⟩ := List.mem_map.1 hline
  rcases Imports.mem_lines.1 htext with ⟨module, _, rfl⟩ | ⟨module, _, rfl⟩
  · simp [Imports.sourceLine]
  · simp

/-- The import lines of a module whose sections have lines are those of its import block. -/
theorem importLines_render (h : ∀ lines ∈ m.sections, IsSection lines) :
    importLines m.render.toList = m.imports.lines.map String.toList := by
  unfold importLines
  rw [linesOf_render h, lines_eq, List.map_append,
    List.takeWhile_append_of_pos (isEmpty_eq_false_of_mem_lines m.imports),
    List.map_cons, List.takeWhile_cons_of_neg (by simp), List.append_nil]

/-- What follows the import lines is an empty line and the other sections. -/
theorem bodyOf_render (h : ∀ lines ∈ m.sections, IsSection lines) :
    bodyOf m.render.toList =
      ("\n" ++ ("\n\n".intercalate ((m.preamble :: m.blocks).map joinLines) ++ "\n")).toList := by
  have hsections : ∀ lines ∈ m.preamble :: m.blocks, IsSection lines :=
    fun lines hlines => h lines (List.mem_cons_of_mem _ hlines)
  have hlines : [""].intercalate (m.preamble :: m.blocks) ≠ [] :=
    (isSection_intercalate (by simp) hsections).ne_nil
  rw [intercalate_joinLines fun lines hmem => (hsections lines hmem).ne_nil, String.toList_append,
    toList_joinLines hlines]
  unfold bodyOf
  rw [linesOf_render h, lines_eq, List.map_append,
    List.dropWhile_append_of_pos (isEmpty_eq_false_of_mem_lines m.imports),
    List.map_cons, List.dropWhile_cons_of_neg (by simp), List.flatMap_cons]
  rfl

end Module

end SchemaCodegen.Code
