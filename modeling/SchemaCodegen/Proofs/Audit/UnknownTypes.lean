import SchemaCodegen.Proofs.Style.Imports
import SchemaCodegen.Proofs.Style.Symbols

/-!
# Proofs: where the type for unknown types is written

The type expression of a column mentions the type for unknown ones exactly if the type of the
column, or that of its innermost elements, is unknown. A module imports that type exactly if some
column of the schema needs it, whatever the style.
-/

namespace SchemaCodegen

open SchemaCodegen.Text SchemaCodegen.Code SchemaCodegen.Code.Vocabulary

/-- Whether a text mentions a name outside literals. -/
def Code.mentions (text name : String) : Bool :=
  (usesOf text.toList).any fun use => use.text == name

/-! ## Type expressions -/

theorem ColumnType.usesOf_typeExpr (column : Column) (dialect : Dialect) :
    usesOf (ofColumn column dialect).typeExpr.render.toList =
      (ofColumn column dialect).typeExpr.uses := by
  refine usesOf_of_reads ((isSpoken_ofColumn column dialect).typeExpr.reads fun _ => ?_)
  rcases typeExpr_eq (ofColumn column dialect) with ⟨symbol, he⟩ | ⟨callee, args, he⟩
  · rw [he]
    rfl
  · rw [he]
    rfl

/-- A type expression uses the name only as the type itself. -/
theorem ColumnType.nullSymbol_mem_of_use {column : Column} {dialect : Dialect} {use : Use}
    (huse : use ∈ (ofColumn column dialect).typeExpr.uses) (htext : use.text = "NullType") :
    nullSymbol ∈ (ofColumn column dialect).typeExpr.symbols := by
  have hspoken := (isSpoken_ofColumn column dialect).typeExpr
  -- the name is no number, no name of an argument and no keyword, so it is that of a symbol
  rcases hspoken.isFrom use huse with (hnumber | hargument | hkeyword) | hdefined |
    ⟨symbol, hsymbol, hin⟩
  · have hname : use.name = "NullType".toList := by
      rw [← htext, Use.text, String.toList_ofList]
    rw [Use.isNumber, hname] at hnumber
    exact absurd hnumber (by decide)
  · have hknown := hspoken.of_isArgument use huse hargument
    rw [htext] at hknown
    exact absurd hknown (by decide)
  · rw [htext] at hkeyword
    exact absurd hkeyword (by decide)
  · cases hdefined
  · have hall : ∀ symbol ∈ typeSymbols dialect, ∀ use ∈ symbol.uses,
        use.text = "NullType" → symbol = nullSymbol := by
      cases dialect <;> decide +kernel
    rwa [← hall symbol (symbols_typeExpr_subset column dialect hsymbol) use hin htext]

theorem ColumnType.mentions_nullType (column : Column) (dialect : Dialect) :
    mentions (ofColumn column dialect).typeExpr.render "NullType" =
      (ofColumn column dialect).isFallback := by
  unfold mentions
  rw [usesOf_typeExpr, Bool.eq_iff_iff, List.any_eq_true, ← nullSymbol_mem_symbols_iff]
  constructor
  · rintro ⟨use, huse, htext⟩
    exact nullSymbol_mem_of_use huse (eq_of_beq htext)
  · intro hmem
    have huse : ⟨"NullType".toList, false, false⟩ ∈ nullSymbol.uses := by decide
    exact ⟨_, (isSpoken_ofColumn column dialect).typeExpr.mem_uses_of_mem_symbols hmem huse,
      by decide⟩

/-! ## Imports -/

/-- A module imports the type for unknown types if and only if it mentions it. -/
theorem Code.Module.IsMadeOf.isImported_nullType_iff {m : Module} {dialect : Dialect}
    {defined : List String} {fixed mentioned : List Symbol}
    (h : m.IsMadeOf dialect defined fixed mentioned) :
    IsImported m.render.toList "NullType" ↔ ColumnType.nullSymbol ∈ fixed ++ mentioned := by
  have hnull : ColumnType.nullSymbol ∈ Code.vocabulary dialect :=
    mem_vocabulary_of_common (by decide)
  constructor
  · rintro (⟨module, hmem⟩ | hmem)
    · have hsymbol := h.mem_importedNames.1 hmem
      rwa [eq_of_name_eq _ hnull _ (h.vocabulary _ hsymbol) rfl rfl rfl]
    · obtain ⟨symbol, hsymbol, hhome⟩ := h.mem_importedModules.1 hmem
      exact absurd rfl (name_ne_whole _ hnull symbol (h.vocabulary symbol hsymbol) rfl "NullType"
        (Symbol.mem_whole? hhome))
  · exact fun hmem => Or.inl ⟨_, h.mem_importedNames.2 hmem⟩

section Modules

variable (schema : Schema) (options : Options)

/-- Some column of the schema has a type that is not known. -/
def Schema.HasUnknownType : Prop :=
  ∃ table ∈ schema.tables, ∃ column ∈ table.columns,
    (ColumnType.ofColumn column schema.dialect).isFallback = true

/-- Symbols of a style and those of the column types hold the type for unknown ones exactly if a
column needs it. -/
theorem Schema.nullSymbol_mem_iff {fixed own mentioned : List Symbol}
    (hfixed : ColumnType.nullSymbol ∉ fixed) (hown : ColumnType.nullSymbol ∉ own)
    (hout : ∀ symbol ∈ mentioned,
      symbol ∈ own ∨ ∃ table ∈ schema.tables, symbol ∈ table.typeSymbols schema.dialect)
    (hin : ∀ table ∈ schema.tables, ∀ column ∈ table.columns,
      (ColumnType.ofColumn column schema.dialect).typeExpr.symbols ⊆ mentioned) :
    ColumnType.nullSymbol ∈ fixed ++ mentioned ↔ schema.HasUnknownType := by
  constructor
  · intro hmem
    have hmentioned := (List.mem_append.1 hmem).resolve_left hfixed
    obtain ⟨table, htable, htypes⟩ := (hout _ hmentioned).resolve_left hown
    exact ⟨table, htable, (table.nullSymbol_mem_typeSymbols schema.dialect).1 htypes⟩
  · rintro ⟨table, htable, column, hcolumn, hfallback⟩
    apply List.mem_append_right
    apply hin table htable column hcolumn
    exact (ColumnType.nullSymbol_mem_symbols_iff column schema.dialect).2 hfallback

/-- A generated text imports the type for unknown types if and only if a column needs it. -/
theorem Style.isImported_nullType_iff [Holding] (style : Style) :
    IsImported (generate style schema options).output.toList "NullType" ↔
      schema.HasUnknownType := by
  cases style with
  | declarative =>
    apply (Declarative.isMadeOf_toModule schema options).isImported_nullType_iff.trans
    exact schema.nullSymbol_mem_iff (by decide)
      (show ColumnType.nullSymbol ∉ Declarative.ownSymbols by decide)
      (fun _ hmem => Declarative.mem_own_or_types schema options hmem)
      fun _ htable _ hcolumn => Declarative.mem_symbols_of_typeExpr schema options htable hcolumn
  | tables =>
    apply (TableObjects.isMadeOf_toModule schema options).isImported_nullType_iff.trans
    exact schema.nullSymbol_mem_iff (by decide)
      (show ColumnType.nullSymbol ∉ TableObjects.ownSymbols by decide)
      (fun _ hmem => TableObjects.mem_own_or_types schema options hmem)
      fun _ htable _ hcolumn => TableObjects.mem_symbols_of_typeExpr schema options htable hcolumn

end Modules

end SchemaCodegen
