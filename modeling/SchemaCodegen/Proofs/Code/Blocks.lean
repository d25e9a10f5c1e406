import SchemaCodegen.Proofs.Code.Imports
import SchemaCodegen.Proofs.Code.Layout

/-!
# Proofs: the lines of blocks

Expressions with plain names are written on one line, whatever their literals stand for. The lines
of an import block, of a class and of a table assignment therefore are as many as their parts, and
they form sections.
-/

namespace SchemaCodegen.Code

open SchemaCodegen.Text

/-! ## Expressions stay in their line -/

theorem isLine_indent : IsLine indent :=
  isMadeOf_of_all rfl

theorem isLine_commaSeparated {items : List String} (h : ∀ item ∈ items, IsLine item) :
    IsLine (commaSeparated items) :=
  IsMadeOf.intercalate (isMadeOf_of_all rfl) h

theorem isLine_tupleBody {items : List String} (h : ∀ item ∈ items, IsLine item) :
    IsLine (Expr.tupleBody items) := by
  fun_cases Expr.tupleBody items with
  | case1 item => exact (List.forall_mem_singleton.1 h).append (isMadeOf_of_all rfl)
  | case2 => exact isLine_commaSeparated h

theorem isLine_renderEntry (entry : String × String) : IsLine (Expr.renderEntry entry) :=
  ((isLine_quote entry.1).append (isMadeOf_of_all rfl)).append (isLine_quote entry.2)

/-- An expression with plain names is written on one line. -/
theorem Expr.IsPlain.isLine {e : Expr} (h : e.IsPlain) : IsLine e.render := by
  have hall : ∀ {es : List Expr}, (∀ e ∈ es, IsLine e.render) →
      ∀ text ∈ renderAll es, IsLine text := by
    intro es hes text htext
    rw [renderAll_eq_map] at htext
    obtain ⟨e, he, rfl⟩ := List.mem_map.1 htext
    exact hes e he
  induction h with
  | symbol h =>
    rw [Expr.render]
    exact h.render.isLine
  | literal =>
    rw [Expr.render]
    exact isLine_quote _
  | number =>
    rw [Expr.render]
    exact (isPlain_toString_int _).isLine
  | @truth value =>
    rw [Expr.render]
    cases value
    · exact isMadeOf_of_all rfl
    · exact isMadeOf_of_all rfl
  | call h _ ih =>
    rw [Expr.render]
    exact ((h.render.isLine.append (isMadeOf_of_all rfl)).append
      (isLine_commaSeparated (hall ih))).append (isMadeOf_of_all rfl)
  | keyword h _ ih =>
    rw [Expr.render]
    exact (h.isLine.append (isMadeOf_of_all rfl)).append ih
  | index h _ ih =>
    rw [Expr.render]
    exact ((h.render.isLine.append (isMadeOf_of_all rfl)).append ih).append (isMadeOf_of_all rfl)
  | list _ ih =>
    rw [Expr.render]
    exact (IsMadeOf.append (isMadeOf_of_all rfl) (isLine_commaSeparated (hall ih))).append
      (isMadeOf_of_all rfl)
  | tuple _ ih =>
    rw [Expr.render]
    exact (IsMadeOf.append (isMadeOf_of_all rfl) (isLine_tupleBody (hall ih))).append
      (isMadeOf_of_all rfl)
  | dict =>
    rw [Expr.render]
    refine (IsMadeOf.append (isMadeOf_of_all rfl) (isLine_commaSeparated ?_)).append
      (isMadeOf_of_all rfl)
    intro text htext
    obtain ⟨entry, _, rfl⟩ := List.mem_map.1 htext
    exact isLine_renderEntry entry

/-- Whether an expression is a call or an argument by name, so that it is never written as
nothing. -/
def Expr.isArgument : Expr → Bool
  | .call _ _ => true
  | .keyword _ _ => true
  | _ => false

/-- A call or an argument by name shows something. -/
theorem Expr.exists_visible_of_isArgument {e : Expr} (h : e.isArgument = true) :
    ∃ c ∈ e.render.toList, isBlank c = false := by
  cases e with
  | call callee args => exact ⟨'(', by simp [Expr.render], by decide⟩
  | keyword name value => exact ⟨'=', by simp [Expr.render], by decide⟩
  | _ => cases h

/-! ## Import blocks -/

/-- The lines of an import block that holds a name are a section. -/
theorem Imports.IsPlain.isSection {imports : Imports} (h : imports.IsPlain)
    (hne : imports.pairs ≠ []) : IsSection imports.lines := by
  obtain ⟨pair, hpair⟩ := List.exists_mem_of_ne_nil _ hne
  refine isSection_of_forall (Imports.lines_ne_nil hpair) fun line hline => ?_
  rcases Imports.mem_lines.1 hline with ⟨module, hmodule, rfl⟩ | ⟨module, hmodule, rfl⟩
  · obtain ⟨name, hname⟩ := Imports.mem_sources.1 hmodule
    have hsource : IsLine module := (h.source _ hname).isLine
    have hnames : IsLine (commaSeparated (Imports.sorted (imports.namesFrom module))) := by
      refine isLine_commaSeparated fun text htext => ?_
      exact (h.name _ (Imports.mem_namesFrom.1 (Imports.mem_sorted.1 htext))).isLine
    refine ⟨?_, isBlankLine_eq_false (c := 'f') (by decide) ?_⟩
    · exact ((IsMadeOf.append (isMadeOf_of_all rfl) hsource).append (isMadeOf_of_all rfl)).append
        hnames
    · simp [Imports.sourceLine]
  · refine ⟨?_, isBlankLine_eq_false (c := 'i') (by decide) (by simp)⟩
    exact IsMadeOf.append (isMadeOf_of_all rfl) (h.module module hmodule).isLine

/-! ## Classes -/

/-- An attribute with plain names. -/
structure Attribute.IsPlain (a : Attribute) : Prop where
  /-- The name of the attribute is plain. -/
  name : Text.IsPlain a.name
  /-- Its annotation writes plain names. -/
  hint : a.hint.IsPlain
  /-- Its value writes plain names. -/
  value : a.value.IsPlain

/-- The line of an attribute is one line. -/
theorem Attribute.IsPlain.isLine {a : Attribute} (h : a.IsPlain) : IsLine a.line :=
  ((((isLine_indent.append h.name.isLine).append (isMadeOf_of_all rfl)).append
    h.hint.isLine).append (isMadeOf_of_all rfl)).append h.value.isLine

theorem Attribute.IsPlain.symbols {a : Attribute} (h : a.IsPlain) : ∀ s ∈ a.symbols, s.IsPlain :=
  List.forall_mem_append.2 ⟨h.hint.symbols, h.value.symbols⟩

/-- A class with plain names. -/
structure ClassBlock.IsPlain (block : ClassBlock) : Prop where
  /-- The name of the class is plain. -/
  name : Text.IsPlain block.name
  /-- What is stated of the table as a whole writes plain names. -/
  tableArgs : ∀ args ∈ block.tableArgs, args.IsPlain
  /-- The attributes are plain. -/
  attributes : ∀ a ∈ block.attributes, a.IsPlain

namespace ClassBlock

variable {block : ClassBlock}

theorem IsPlain.symbols (h : block.IsPlain) : ∀ s ∈ block.symbols, s.IsPlain := by
  refine List.forall_mem_append.2 ⟨?_, ?_⟩
  · intro s hs
    rw [argsSymbols] at hs
    split at hs
    · cases hs
    · next args hargs => exact (h.tableArgs args hargs).symbols s hs
  · intro s hs
    obtain ⟨a, ha, hs⟩ := List.mem_flatMap.1 hs
    exact (h.attributes a ha).symbols s hs

/-- The lines of a class before its attributes. -/
def headLines (block : ClassBlock) : List String :=
  ["class " ++ block.name ++ "(Base):", indent ++ "__tablename__ = " ++ quote block.table] ++
    block.argsLines

/-- The lines of a class are those before the attributes, and the attributes after an empty line if
there are any. -/
theorem lines_eq (block : ClassBlock) :
    block.lines = if block.attributes = [] then block.headLines
      else [""].intercalate [block.headLines, block.attributes.map Attribute.line] := by
  rw [lines, attributeLines, headLines]
  cases block.attributes with
  | nil => simp
  | cons a attributes => simp

/-- A class has two lines, one for what is stated of the table if anything is, and one more than
attributes if there are any. -/
theorem length_lines (block : ClassBlock) :
    block.lines.length = 2 + (if block.tableArgs.isSome then 1 else 0) +
      (if block.attributes = [] then 0 else 1 + block.attributes.length) := by
  rw [lines, List.length_append, List.length_append, argsLines, attributeLines]
  cases block.tableArgs <;> cases block.attributes <;>
    simp only [List.length_cons, List.length_nil, List.length_map, Option.isSome_none,
      Option.isSome_some, reduceCtorEq, if_true, if_false, Bool.false_eq_true] <;> omega

theorem IsPlain.isSection_headLines (h : block.IsPlain) : IsSection block.headLines := by
  refine isSection_of_forall (by simp [headLines]) ?_
  rw [headLines]
  simp only [List.forall_mem_append, List.forall_mem_cons]
  refine ⟨⟨⟨?_, ?_⟩, ⟨?_, ?_⟩, List.forall_mem_nil _⟩, ?_⟩
  · exact (IsMadeOf.append (isMadeOf_of_all rfl) h.name.isLine).append (isMadeOf_of_all rfl)
  · exact isBlankLine_eq_false (c := ':') (by decide) (by simp)
  · exact (isLine_indent.append (isMadeOf_of_all rfl)).append (isLine_quote _)
  · exact isBlankLine_eq_false (c := '=') (by decide) (by simp)
  · rw [argsLines]
    split
    · exact List.forall_mem_nil _
    · next args hargs =>
      refine List.forall_mem_singleton.2 ⟨?_, ?_⟩
      · exact (isLine_indent.append (isMadeOf_of_all rfl)).append (h.tableArgs args hargs).isLine
      · exact isBlankLine_eq_false (c := '=') (by decide) (by simp)

theorem IsPlain.isSection (h : block.IsPlain) : IsSection block.lines := by
  rw [lines_eq]
  split
  · exact h.isSection_headLines
  · next hne =>
    have hattributes : IsSection (block.attributes.map Attribute.line) := by
      refine isSection_of_forall (by simpa using hne) fun line hline => ?_
      obtain ⟨a, ha, rfl⟩ := List.mem_map.1 hline
      refine ⟨(h.attributes a ha).isLine, isBlankLine_eq_false (c := ':') (by decide) ?_⟩
      simp [Attribute.line]
    refine isSection_intercalate (by simp) ?_
    simp only [List.forall_mem_cons]
    exact ⟨h.isSection_headLines, hattributes, List.forall_mem_nil _⟩

end ClassBlock

/-! ## Table assignments -/

theorem length_bodyLines (margin : String) (items : List String) :
    (bodyLines margin items).length = items.length := by
  fun_induction bodyLines margin items with
  | case1 => rfl
  | case2 => rfl
  | case3 item items _ ih => simpa using ih

/-- The lines of a body are made of the margin, an item, and a comma or nothing. -/
theorem eq_of_mem_bodyLines {margin : String} {items : List String} {line : String}
    (h : line ∈ bodyLines margin items) :
    ∃ item ∈ items, line = margin ++ item ∨ line = margin ++ item ++ "," := by
  fun_induction bodyLines margin items with
  | case1 => cases h
  | case2 item => exact ⟨item, List.mem_singleton_self _, Or.inl (List.mem_singleton.1 h)⟩
  | case3 item items _ ih =>
    rcases List.mem_cons.1 h with rfl | h
    · exact ⟨item, List.mem_cons_self .., Or.inr rfl⟩
    · obtain ⟨other, hmem, he⟩ := ih h
      exact ⟨other, List.mem_cons_of_mem _ hmem, he⟩

/-- A table assignment with plain names. -/
structure TableBlock.IsPlain (block : TableBlock) : Prop where
  /-- The name of the variable is plain. -/
  name : Text.IsPlain block.name
  /-- The arguments write plain names. -/
  items : ∀ item ∈ block.items, item.IsPlain
  /-- The arguments are calls or given by name. -/
  isArgument : ∀ item ∈ block.items, item.isArgument = true

namespace TableBlock

variable {block : TableBlock}

theorem IsPlain.symbols (h : block.IsPlain) : ∀ s ∈ block.symbols, s.IsPlain := by
  intro s hs
  obtain ⟨item, hitem, hs⟩ := List.mem_flatMap.1 hs
  exact (h.items item hitem).symbols s hs

/-- The arguments of the assignment as they are written, those that every table has in front. -/
def arguments (block : TableBlock) : List String :=
  (quote block.table ++ ", metadata") :: block.items.map Expr.render

/-- The lines of the assignment are its arguments between an opening and a closing line. -/
theorem lines_eq (block : TableBlock) :
    block.lines = (block.name ++ " = Table(") :: (bodyLines indent block.arguments ++ [")"]) :=
  rfl

/-- As one text an assignment is its name and a call whose brackets stand on the first and the last
line. -/
theorem joinLines_lines (block : TableBlock) :
    joinLines block.lines = block.name ++ " = Table" ++
      ("(" ++ ("\n" ++ joinLines (bodyLines indent block.arguments) ++ "\n") ++ ")") := by
  have hne : bodyLines indent block.arguments ≠ [] := by
    rw [← List.length_pos_iff, length_bodyLines, arguments]
    exact Nat.succ_pos _
  rw [lines_eq, joinLines, String.intercalate_cons_of_ne_nil (by simp),
    String.intercalate_append_of_ne_nil hne (by simp), String.intercalate_singleton,
    show " = Table(" = " = Table" ++ "(" from rfl]
  simp only [joinLines, String.append_assoc]

/-- A table assignment has three lines and one for each argument. -/
theorem length_lines (block : TableBlock) : block.lines.length = 3 + block.items.length := by
  rw [lines_eq, List.length_cons, List.length_append, length_bodyLines, arguments]
  simp only [List.length_cons, List.length_map, List.length_nil]
  omega

/-- The arguments of the assignment show something on one line. -/
theorem IsPlain.isLine_arguments (h : block.IsPlain) : ∀ text ∈ block.arguments,
    IsLine text ∧ ∃ c ∈ text.toList, isBlank c = false := by
  refine List.forall_mem_cons.2 ⟨⟨?_, 'm', by simp, by decide⟩, fun text htext => ?_⟩
  · exact (isLine_quote _).append (isMadeOf_of_all rfl)
  · obtain ⟨item, hitem, rfl⟩ := List.mem_map.1 htext
    exact ⟨(h.items item hitem).isLine, Expr.exists_visible_of_isArgument (h.isArgument item hitem)⟩

theorem IsPlain.isSection (h : block.IsPlain) : IsSection block.lines := by
  refine isSection_of_forall (by simp [lines]) ?_
  rw [lines_eq]
  simp only [List.forall_mem_cons, List.forall_mem_append]
  refine ⟨⟨h.name.isLine.append (isMadeOf_of_all rfl), ?_⟩, fun line hline => ?_,
    ⟨isMadeOf_of_all rfl, by decide⟩, List.forall_mem_nil _⟩
  · exact isBlankLine_eq_false (c := '=') (by decide) (by simp)
  · obtain ⟨text, htext, he⟩ := eq_of_mem_bodyLines hline
    obtain ⟨hline, c, hc, hvisible⟩ := h.isLine_arguments text htext
    have hmargin : IsLine (indent ++ text) := isLine_indent.append hline
    rcases he with rfl | rfl
    · exact ⟨hmargin, isBlankLine_eq_false hvisible (by simp [hc])⟩
    · exact ⟨hmargin.append (isMadeOf_of_all rfl), isBlankLine_eq_false hvisible (by simp [hc])⟩

end TableBlock

end SchemaCodegen.Code
