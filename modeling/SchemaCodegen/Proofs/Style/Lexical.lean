import SchemaCodegen.Generation
import SchemaCodegen.Proofs.Code.Scan
import SchemaCodegen.Proofs.Style.Plain

/-!
# Proofs: generated text is lexically closed

No literal of a generated text runs over the end of its line and no bracket is left open: not on a
line of a declarative module, not in an argument of a table assignment, and not in a block or in the
text as a whole. The arguments of a table assignment are set apart by commas at the ends of their
lines.
-/

namespace SchemaCodegen

open SchemaCodegen.Text SchemaCodegen.Code

namespace Code

/-! ## Lines and groups of lines -/

theorem isClosed_indent : IsClosed indent :=
  isClosed_of_all rfl

theorem isClosed_joinLines {lines : List String} (h : ∀ line ∈ lines, IsClosed line) :
    IsClosed (joinLines lines) :=
  IsClosed.intercalate (isClosed_of_all rfl) h

/-- A line between groups of lines is empty or belongs to one of them. -/
theorem mem_intercalate_sections {groups : List (List String)} {line : String}
    (h : line ∈ [""].intercalate groups) : line = "" ∨ ∃ group ∈ groups, line ∈ group := by
  induction groups with
  | nil => cases h
  | cons group groups ih =>
    cases groups with
    | nil => exact Or.inr ⟨group, List.mem_cons_self .., by simpa using h⟩
    | cons next groups =>
      rw [List.intercalate_cons_cons, List.append_assoc, List.mem_append, List.mem_append,
        List.mem_singleton] at h
      rcases h with h | h | h
      · exact Or.inr ⟨group, List.mem_cons_self .., h⟩
      · exact Or.inl h
      · refine (ih h).imp_right fun ⟨other, hmem, hline⟩ => ?_
        exact ⟨other, List.mem_cons_of_mem _ hmem, hline⟩

/-- A group of lines stands together among groups with an empty line between them. -/
theorem infix_intercalate_sections {groups : List (List String)} {group : List String}
    (h : group ∈ groups) : group <:+: [""].intercalate groups := by
  induction groups with
  | nil => cases h
  | cons first groups ih =>
    cases groups with
    | nil =>
      have he := List.mem_singleton.1 h
      exact ⟨[], [], by simp [he]⟩
    | cons next groups =>
      rw [List.intercalate_cons_cons, List.append_assoc]
      rcases List.mem_cons.1 h with rfl | h
      · exact (List.prefix_append _ _).isInfix
      · exact (ih h).trans ((List.suffix_append _ _).trans (List.suffix_append _ _)).isInfix

theorem Module.isClosed_render {m : Module} (h : ∀ lines ∈ m.sections, IsClosed (joinLines lines)) :
    IsClosed m.render := by
  refine (IsClosed.intercalate (isClosed_of_all rfl) fun text htext => ?_).append
    (isClosed_of_all rfl)
  obtain ⟨lines, hlines, rfl⟩ := List.mem_map.1 htext
  exact h lines hlines

theorem Imports.IsPlain.isClosed {imports : Imports} (h : imports.IsPlain) :
    ∀ line ∈ imports.lines, IsClosed line := by
  intro line hline
  rcases mem_lines.1 hline with ⟨module, hmodule, rfl⟩ | ⟨module, hmodule, rfl⟩
  · obtain ⟨name, hname⟩ := mem_sources.1 hmodule
    refine ((IsClosed.append (isClosed_of_all rfl) (isClosed_of_isPlain (h.source _ hname))).append
      (isClosed_of_all rfl)).append (isClosed_commaSeparated fun text htext => ?_)
    exact isClosed_of_isPlain (h.name _ (mem_namesFrom.1 (mem_sorted.1 htext)))
  · exact IsClosed.append (isClosed_of_all rfl) (isClosed_of_isPlain (h.module module hmodule))

/-! ## Classes -/

theorem Attribute.IsPlain.isClosed {a : Attribute} (h : a.IsPlain) : IsClosed a.line :=
  ((((isClosed_indent.append (isClosed_of_isPlain h.name)).append (isClosed_of_all rfl)).append
    h.hint.isClosed).append (isClosed_of_all rfl)).append h.value.isClosed

theorem ClassBlock.IsPlain.isClosed {block : ClassBlock} (h : block.IsPlain) :
    ∀ line ∈ block.lines, IsClosed line := by
  have hbase : IsClosed "(Base):" := fun _ => rfl
  simp only [lines, List.forall_mem_append, List.forall_mem_cons]
  refine ⟨⟨⟨?_, ?_, List.forall_mem_nil _⟩, ?_⟩, ?_⟩
  · exact (IsClosed.append (isClosed_of_all rfl) (isClosed_of_isPlain h.name)).append hbase
  · exact (isClosed_indent.append (isClosed_of_all rfl)).append (isClosed_quote _)
  · rw [argsLines]
    split
    · exact List.forall_mem_nil _
    · next args hargs =>
      refine List.forall_mem_singleton.2 ?_
      exact (isClosed_indent.append (isClosed_of_all rfl)).append (h.tableArgs args hargs).isClosed
  · rw [attributeLines]
    split
    · exact List.forall_mem_nil _
    · refine List.forall_mem_cons.2 ⟨isClosed_empty, fun line hline => ?_⟩
      obtain ⟨a, ha, rfl⟩ := List.mem_map.1 hline
      exact (h.attributes a ha).isClosed

/-! ## Table assignments -/

/-- Whether a line ends in a comma outside literals. -/
def EndsInComma (line : List Char) : Prop :=
  ∃ before s, line = before ++ [','] ∧ Scan.run {} before = some s ∧ s.place = .outside

/-- An expression with plain names does not end in a comma. -/
theorem Expr.IsPlain.getLast?_ne {e : Expr} (h : e.IsPlain) :
    e.render.toList.getLast? ≠ some ',' := by
  have hplain : ∀ {text : String}, Text.IsPlain text → text.toList.getLast? ≠ some ',' :=
    fun h hlast => absurd (h _ (List.mem_of_getLast? hlast)) (by decide)
  have hend : ∀ (front : String) {text : String}, text.toList.getLast? ≠ some ',' →
      text.toList ≠ [] → (front ++ text).toList.getLast? ≠ some ',' := by
    intro front text hlast hne
    rwa [String.toList_append, List.getLast?_append_of_ne_nil _ hne]
  induction h with
  | symbol h =>
    rw [Expr.render]
    exact hplain h.render
  | literal =>
    rw [Expr.render]
    exact hend _ (by decide) (by decide)
  | number =>
    rw [Expr.render]
    exact hplain (isPlain_toString_int _)
  | @truth value =>
    rw [Expr.render]
    cases value <;> decide
  | @keyword name value _ _ ih =>
    rw [Expr.render]
    by_cases hvalue : value.render.toList = []
    · rw [String.toList_append, hvalue, List.append_nil]
      exact hend _ (by decide) (by decide)
    · exact hend _ ih hvalue
  | call | index | list | tuple | dict =>
    rw [Expr.render]
    exact hend _ (by decide) (by decide)

/-- Every line of a body but the last is made of the margin, an item and a comma. -/
theorem eq_of_mem_dropLast_bodyLines {margin : String} {items : List String} {line : String}
    (h : line ∈ (bodyLines margin items).dropLast) :
    ∃ item ∈ items, line = margin ++ item ++ "," := by
  fun_induction bodyLines margin items with
  | case1 => cases h
  | case2 => cases h
  | case3 item items hne ih =>
    have hlines : bodyLines margin items ≠ [] := by
      rw [← List.length_pos_iff, length_bodyLines]
      exact List.length_pos_iff.2 fun hnil => hne hnil
    rw [List.dropLast_cons_of_ne_nil hlines] at h
    rcases List.mem_cons.1 h with rfl | h
    · exact ⟨item, List.mem_cons_self .., rfl⟩
    · obtain ⟨other, hmem, he⟩ := ih h
      exact ⟨other, List.mem_cons_of_mem _ hmem, he⟩

/-- The last line of a body is made of the margin and the last item. -/
theorem getLast?_bodyLines (margin : String) (items : List String) :
    (bodyLines margin items).getLast? = items.getLast?.map (margin ++ ·) := by
  fun_induction bodyLines margin items with
  | case1 => rfl
  | case2 => rfl
  | case3 item items hne ih =>
    have hlines : bodyLines margin items ≠ [] := by
      rw [← List.length_pos_iff, length_bodyLines]
      exact List.length_pos_iff.2 fun hnil => hne hnil
    rw [List.getLast?_cons_of_ne_nil hlines, ih, List.getLast?_cons_of_ne_nil fun hnil => hne hnil]

namespace TableBlock

/-- A table assignment in which literals, brackets and commas are where they belong. -/
structure IsWellPunctuated (block : TableBlock) : Prop where
  /-- The assignment as a whole leaves no literal and no bracket open. -/
  whole : IsBalanced (joinLines block.lines).toList
  /-- Neither does any of its arguments. -/
  items : ∀ item ∈ block.items, IsBalanced item.render.toList
  /-- Between its first line and its last stand one line for the table and one for each argument;
  all of them but the last end in a comma outside literals, and the last does not. -/
  commas : ∃ lines : List String,
    block.lines = (block.name ++ " = Table(") :: (lines ++ [")"]) ∧
      lines.length = 1 + block.items.length ∧ (∀ line ∈ lines, IsBalanced line.toList) ∧
      (∀ line ∈ lines.dropLast, EndsInComma line.toList) ∧
      ∀ line ∈ lines.getLast?, ¬ EndsInComma line.toList

variable {block : TableBlock}

theorem IsPlain.isClosed_arguments (h : block.IsPlain) :
    ∀ text ∈ block.arguments, IsClosed text := by
  refine List.forall_mem_cons.2 ⟨?_, fun text htext => ?_⟩
  · exact (isClosed_quote _).append (isClosed_of_all rfl)
  · obtain ⟨item, hitem, rfl⟩ := List.mem_map.1 htext
    exact (h.items item hitem).isClosed

theorem IsPlain.isClosed_bodyLines (h : block.IsPlain) :
    ∀ line ∈ bodyLines indent block.arguments, IsClosed line := by
  intro line hline
  obtain ⟨text, htext, he⟩ := eq_of_mem_bodyLines hline
  have hmargin : IsClosed (indent ++ text) :=
    isClosed_indent.append (h.isClosed_arguments text htext)
  rcases he with rfl | rfl
  · exact hmargin
  · exact hmargin.append (isClosed_of_all rfl)

/-- A plain table assignment is closed, although its first and its last line are not. -/
theorem IsPlain.isClosed (h : block.IsPlain) : IsClosed (joinLines block.lines) := by
  have hbody : IsClosed ("\n" ++ joinLines (bodyLines indent block.arguments) ++ "\n") :=
    (IsClosed.append (isClosed_of_all rfl) (isClosed_joinLines h.isClosed_bodyLines)).append
      (isClosed_of_all rfl)
  have hname : IsClosed (block.name ++ " = Table") :=
    (isClosed_of_isPlain h.name).append (isClosed_of_all rfl)
  rw [joinLines_lines]
  exact hname.append hbody.round

/-- The last argument of a plain table assignment does not end in a comma. -/
theorem IsPlain.getLast?_ne (h : block.IsPlain) :
    ∀ text ∈ block.arguments, (indent ++ text).toList.getLast? ≠ some ',' := by
  have hindent : ∀ {text : String}, text.toList.getLast? ≠ some ',' →
      (indent ++ text).toList.getLast? ≠ some ',' := by
    intro text hlast
    rw [String.toList_append, List.getLast?_append]
    cases htext : text.toList.getLast? with
    | none => decide
    | some c => rwa [htext] at hlast
  refine List.forall_mem_cons.2 ⟨hindent ?_, fun text htext => hindent ?_⟩
  · rw [String.toList_append, List.getLast?_append_of_ne_nil _ (by decide)]
    decide
  · obtain ⟨item, hitem, rfl⟩ := List.mem_map.1 htext
    exact (h.items item hitem).getLast?_ne

theorem IsPlain.isWellPunctuated (h : block.IsPlain) : block.IsWellPunctuated := by
  refine { whole := h.isClosed.isBalanced, items := ?_, commas := ?_ }
  · -- items
    intro item hitem
    exact (h.items item hitem).isClosed.isBalanced
  · -- commas
    refine ⟨bodyLines indent block.arguments, lines_eq block, ?_, ?_, ?_, ?_⟩
    · rw [length_bodyLines, arguments, List.length_cons, List.length_map, Nat.add_comm]
    · intro line hline
      exact (h.isClosed_bodyLines line hline).isBalanced
    · intro line hline
      obtain ⟨text, htext, rfl⟩ := eq_of_mem_dropLast_bodyLines hline
      have hclosed := isClosed_indent.append (h.isClosed_arguments text htext)
      exact ⟨(indent ++ text).toList, {}, String.toList_append, hclosed.isBalanced, rfl⟩
    · intro line hline hcomma
      rw [getLast?_bodyLines] at hline
      obtain ⟨text, htext, rfl⟩ := Option.map_eq_some_iff.1 hline
      obtain ⟨before, s, he, _⟩ := hcomma
      refine h.getLast?_ne text (List.mem_of_getLast? htext) ?_
      rw [he, List.getLast?_concat]

end TableBlock

end Code

/-! ## Generated text -/

/-- The lines of a declarative module are closed. -/
theorem Declarative.isClosed_of_mem_sections (schema : Schema) (options : Options) :
    ∀ lines ∈ (toModule schema options).sections, ∀ line ∈ lines, IsClosed line := by
  have hbase : IsClosed "class Base(DeclarativeBase):" := fun _ => rfl
  have hpass : IsClosed (indent ++ "pass") := isClosed_indent.append (isClosed_of_all rfl)
  simp only [Module.sections, toModule, List.forall_mem_cons, List.forall_mem_map]
  refine ⟨?_, ⟨hbase, hpass, List.forall_mem_nil _⟩, fun block hblock => ?_⟩
  · exact (Imports.isPlain_ofSymbols (isPlain_symbols schema options)).isClosed
  · exact (isPlain_classes schema options block hblock).isClosed

theorem TableObjects.isClosed_of_mem_sections (schema : Schema) (options : Options) :
    ∀ lines ∈ (toModule schema options).sections, IsClosed (joinLines lines) := by
  have hmetadata : IsClosed "metadata = MetaData()" := fun _ => rfl
  simp only [Module.sections, toModule, List.forall_mem_cons, List.forall_mem_map]
  refine ⟨isClosed_joinLines ?_, isClosed_joinLines ?_, fun block hblock => ?_⟩
  · exact (Imports.isPlain_ofSymbols (isPlain_symbols schema options)).isClosed
  · exact List.forall_mem_singleton.2 hmetadata
  · exact (isPlain_blocks schema options block hblock).isClosed

theorem Style.isClosed_of_mem_sections (style : Style) (schema : Schema) (options : Options) :
    ∀ lines ∈ (style.toModule schema options).sections, IsClosed (joinLines lines) := by
  cases style with
  | declarative =>
    intro lines hlines
    exact isClosed_joinLines (Declarative.isClosed_of_mem_sections schema options lines hlines)
  | tables => exact TableObjects.isClosed_of_mem_sections schema options

/-- A report whose text leaves no literal and no bracket open where it should not. -/
structure Report.IsLexicallyClosed (report : Report) (style : Style) (schema : Schema)
    (options : Options) : Prop where
  /-- The text as a whole leaves no literal and no bracket open. -/
  whole : IsBalanced report.output.toList
  /-- Every line of the text ends outside literals. -/
  lineEnds : ∀ before after, report.output.toList = before ++ '\n' :: after →
    ∃ s, Scan.run {} before = some s ∧ s.place = .outside
  /-- The block of each table stands in the text and leaves no literal and no bracket open. -/
  blocks : ∀ lines ∈ (style.toModule schema options).blocks,
    lines.map String.toList <:+: linesOf report.output.toList ∧
      IsBalanced (joinLines lines).toList
  /-- In the declarative style this holds of each line. -/
  declarative : style = .declarative →
    ∀ line ∈ linesOf report.output.toList, IsBalanced line
  /-- In the other style the blocks are table assignments with everything where it belongs. -/
  tables : style = .tables →
    (style.toModule schema options).blocks =
        (TableObjects.blocks schema options).map TableBlock.lines ∧
      ∀ block ∈ TableObjects.blocks schema options, block.IsWellPunctuated

/-- Whatever the texts of a schema are, they open and close nothing in the generated text. -/
theorem isLexicallyClosed_generate [Holding] (style : Style) (schema : Schema) (options : Options) :
    (generate style schema options).IsLexicallyClosed style schema options := by
  have hclosed := style.isClosed_of_mem_sections schema options
  have hwhole : IsBalanced (generate style schema options).output.toList :=
    (Module.isClosed_render hclosed).isBalanced
  have hlines : linesOf (generate style schema options).output.toList =
      (style.toModule schema options).lines.map String.toList :=
    Module.linesOf_render (style.isSection_of_mem_sections schema options)
  refine { whole := hwhole, lineEnds := ?_, blocks := ?_, declarative := ?_, tables := ?_ }
  · -- lineEnds
    intro before after he
    rw [IsBalanced, he] at hwhole
    exact Scan.place_of_run_lineFeed hwhole
  · -- blocks
    intro lines hmem
    have hsection : lines ∈ (style.toModule schema options).sections :=
      List.mem_cons_of_mem _ (List.mem_cons_of_mem _ hmem)
    rw [hlines]
    exact ⟨(infix_intercalate_sections hsection).map _, (hclosed lines hsection).isBalanced⟩
  · -- declarative
    rintro rfl line hline
    rw [hlines] at hline
    obtain ⟨text, htext, rfl⟩ := List.mem_map.1 hline
    rcases mem_intercalate_sections htext with rfl | ⟨lines, hmem, htext⟩
    · exact isClosed_empty.isBalanced
    · exact (Declarative.isClosed_of_mem_sections schema options lines hmem text htext).isBalanced
  · -- tables
    rintro rfl
    refine ⟨rfl, fun block hblock => ?_⟩
    exact (TableObjects.isPlain_blocks schema options block hblock).isWellPunctuated

end SchemaCodegen
