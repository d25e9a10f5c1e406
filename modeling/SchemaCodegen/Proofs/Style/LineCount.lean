import SchemaCodegen.Generation
import SchemaCodegen.Proofs.Dependency.TableOrder
import SchemaCodegen.Proofs.Style.Plain

/-!
# Proofs: the lines of generated text

The lines of a generated text are those that its imports, its preamble and the parts of its tables
account for; no text of the schema adds a line or takes one away. The text ends in one line feed and
never shows two blank lines in a row.
-/

namespace SchemaCodegen

open SchemaCodegen.Text SchemaCodegen.Code

namespace Style

/-- The lines that a table takes in a style, with the empty line before them. -/
def tableLines (style : Style) (dialect : Dialect) (options : Options) (table : Table) : Nat :=
  match style with
  | declarative =>
    3 + (if (Declarative.tableArgs table dialect options).isSome then 1 else 0) +
      if table.columns = [] then 0 else 1 + table.columns.length
  | tables => 4 + (TableObjects.itemsOf table dialect options).length

/-- The lines that the preamble of a style takes, with the empty line before them. -/
def preambleLines : Style → Nat
  | declarative => 3
  | tables => 2

/-- The lines that a schema takes in a style. -/
def totalLines (style : Style) (schema : Schema) (options : Options) : Nat :=
  (style.toModule schema options).imports.lines.length + style.preambleLines +
    (schema.tables.map (style.tableLines schema.dialect options)).sum

end Style

/-! ## Counting the lines of blocks -/

/-- What a list gives together with one of the same length, counted by a measure that does not
depend on the second, is counted by the first alone. -/
theorem sum_map_zipWith {α β γ : Type} {f : α → β → γ} (measure : γ → Nat) {size : α → Nat}
    (h : ∀ a b, measure (f a b) = size a) {as : List α} {bs : List β}
    (hlen : bs.length = as.length) :
    ((List.zipWith f as bs).map measure).sum = (as.map size).sum := by
  induction as generalizing bs with
  | nil => simp
  | cons a as ih =>
    cases bs with
    | nil => cases hlen
    | cons b bs =>
      rw [List.zipWith_cons_cons, List.map_cons, List.sum_cons, h, ih (Nat.succ.inj hlen),
        List.map_cons, List.sum_cons]

/-- The lines of a class, with the empty line before them. -/
theorem Declarative.length_lines_classOf (dialect : Dialect) (options : Options) (table : Table)
    (name : String) : (classOf dialect options table name).lines.length + 1 =
      Style.declarative.tableLines dialect options table := by
  have hlen := length_attributesOf table dialect options
  have hnil : attributesOf table dialect options = [] ↔ table.columns = [] := by
    rw [← List.length_eq_zero_iff, hlen, List.length_eq_zero_iff]
  rw [ClassBlock.length_lines, Style.tableLines, classOf]
  simp only [hnil, hlen]
  omega

theorem TableObjects.length_lines_blockOf (dialect : Dialect) (options : Options) (table : Table)
    (name : String) : (blockOf dialect options table name).lines.length + 1 =
      Style.tables.tableLines dialect options table := by
  rw [TableBlock.length_lines]
  show 3 + (itemsOf table dialect options).length + 1 = 4 + (itemsOf table dialect options).length
  omega

/-- The blocks of a module are as many as the tables, and their lines, with the empty lines before
them, are those that the tables take. -/
theorem Style.length_blocks (style : Style) (schema : Schema) (options : Options) :
    (style.toModule schema options).blocks.length = schema.tables.length ∧
      ((style.toModule schema options).blocks.map fun lines => lines.length + 1).sum =
        (schema.tables.map (style.tableLines schema.dialect options)).sum := by
  cases style with
  | declarative =>
    have hnames := Declarative.length_classNames schema options
    refine ⟨by simp [toModule, Declarative.toModule, Declarative.classes, hnames], ?_⟩
    simp only [toModule, Declarative.toModule, Declarative.classes, List.map_map]
    exact sum_map_zipWith (fun block : ClassBlock => block.lines.length + 1)
      (Declarative.length_lines_classOf schema.dialect options) hnames
  | tables =>
    -- the tables stand in another order here, which leaves their sum as it is
    have hperm := Dependency.sortTables_perm schema.tables
    have hnames := TableObjects.length_variableNames (Dependency.sortTables schema.tables)
    refine ⟨by simp [toModule, TableObjects.toModule, TableObjects.blocks, hnames, hperm.length_eq],
      ?_⟩
    simp only [toModule, TableObjects.toModule, TableObjects.blocks, List.map_map]
    rw [← (hperm.map _).sum_nat]
    exact sum_map_zipWith (fun block : TableBlock => block.lines.length + 1)
      (TableObjects.length_lines_blockOf schema.dialect options) hnames

theorem Style.length_lines_toModule (style : Style) (schema : Schema) (options : Options) :
    (style.toModule schema options).lines.length = style.totalLines schema options := by
  have hpreamble : (style.toModule schema options).preamble.length + 1 = style.preambleLines := by
    cases style <;> rfl
  rw [Module.lines, Module.sections, length_intercalate_sections, List.map_cons, List.sum_cons,
    (style.length_blocks schema options).2, totalLines]
  omega

/-! ## Generated text -/

/-- A report whose text has the lines of its module and no others. -/
structure Report.IsLaidOut (report : Report) (style : Style) (schema : Schema)
    (options : Options) : Prop where
  /-- The lines of the text are those of the imports, of the preamble and of the blocks, with one
  empty line between any two of these. -/
  lines_eq : linesOf report.output.toList = ([""].intercalate
    ((style.toModule schema options).imports.lines :: (style.toModule schema options).preamble ::
      (style.toModule schema options).blocks)).map String.toList
  /-- There is one block for each table. -/
  blocks : (style.toModule schema options).blocks.length = schema.tables.length
  /-- The lines are as many as the imports, the preamble and the tables take. -/
  length : (linesOf report.output.toList).length = style.totalLines schema options
  /-- The report tells how many they are. -/
  lineCount : report.lineCount = (linesOf report.output.toList).length
  /-- The text ends in a line feed. -/
  lineFeed : report.output.toList.getLast? = some '\n'
  /-- The text does not end in two line feeds. -/
  single : ¬ ['\n', '\n'] <:+ report.output.toList
  /-- No two lines in a row are blank. -/
  chain : (linesOf report.output.toList).IsChain NotBothBlank
  /-- No carriage return breaks a line. -/
  noReturn : '\r' ∉ report.output.toList

/-- Whatever the texts of a schema are, they leave the lines of the generated text alone. This holds
for every schema, and so for every selection of the tables of one. -/
theorem isLaidOut_generate [Holding] (style : Style) (schema : Schema) (options : Options) :
    (generate style schema options).IsLaidOut style schema options := by
  have hsections := style.isSection_of_mem_sections schema options
  have hsection : IsSection (style.toModule schema options).lines :=
    isSection_intercalate (by simp [Module.sections]) hsections
  have houtput : (generate style schema options).output.toList =
      ((style.toModule schema options).lines.map String.toList).flatMap (· ++ ['\n']) :=
    Module.toList_render hsections
  have hlines : linesOf (generate style schema options).output.toList =
      (style.toModule schema options).lines.map String.toList :=
    Module.linesOf_render hsections
  refine { lines_eq := hlines, blocks := (style.length_blocks schema options).1, length := ?_,
           lineCount := ?_, lineFeed := ?_, single := ?_, chain := ?_, noReturn := ?_ }
  · -- length
    rw [hlines, List.length_map, style.length_lines_toModule schema options]
  · -- lineCount
    exact congrArg Nat.cast (countLines_eq _)
  · -- lineFeed
    rw [houtput]
    exact getLast?_flatMap_lineFeed (by simpa using hsection.ne_nil)
  · -- single
    rw [houtput]
    refine not_lineFeeds_suffix (fun line hline => ?_) fun line hline => ?_
    · obtain ⟨text, htext, rfl⟩ := List.mem_map.1 hline
      exact (hsection.isLine text htext).not_mem_lineFeed
    · rw [List.getLast?_map] at hline
      obtain ⟨text, htext, rfl⟩ := Option.map_eq_some_iff.1 hline
      intro hnil
      have hvisible := hsection.last text htext
      rw [hnil] at hvisible
      cases hvisible
  · -- chain
    rw [hlines]
    exact (List.isChain_map _).2 hsection.chain
  · -- noReturn
    rw [houtput]
    intro hmem
    obtain ⟨line, hline, hc⟩ := List.mem_flatMap.1 hmem
    obtain ⟨text, htext, rfl⟩ := List.mem_map.1 hline
    rcases List.mem_append.1 hc with hc | hc
    · exact (hsection.isLine text htext).not_mem_return hc
    · cases List.mem_singleton.1 hc

end SchemaCodegen
