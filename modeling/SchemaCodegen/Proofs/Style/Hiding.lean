import SchemaCodegen.Proofs.Style.DistinctNames
import SchemaCodegen.Proofs.Style.Words

/-!
# Proofs: attributes that hide what their class looks up

The body of a class looks up the names that its annotations and values use, and it finds an attribute
of the class before anything that is imported or needs no import. What can be imported is reserved,
so no attribute hides it. The types that need no import are not: a column that is called as one of
them hides it from the annotations of its class.
-/

namespace SchemaCodegen

open SchemaCodegen.Text SchemaCodegen.Code SchemaCodegen.Code.Vocabulary SchemaCodegen.Naming

/-! ## What code looks up -/

namespace Code

/-- Whether a name is looked up where it stands: it is neither a member of what comes before nor the
name of an argument. -/
def Use.isLookup (use : Use) : Bool :=
  !use.isMember && !use.isArgument

/-- The expression, as it is written, looks up the name. -/
def Expr.LooksUp (e : Expr) (name : String) : Prop :=
  ∃ use ∈ usesOf e.render.toList, use.isLookup = true ∧ use.text = name

instance (e : Expr) (name : String) : Decidable (e.LooksUp name) :=
  inferInstanceAs (Decidable (∃ use ∈ usesOf e.render.toList, _))

/-- The name that is looked up for a symbol. -/
def Symbol.lookedUp (symbol : Symbol) : String :=
  symbol.whole?.getD symbol.name

theorem Symbol.exists_lookup_iff {symbol : Symbol} {name : String} :
    (∃ use ∈ symbol.uses, use.isLookup = true ∧ use.text = name) ↔ symbol.lookedUp = name := by
  obtain ⟨home, text⟩ := symbol
  cases home <;> simp [Symbol.uses, Use.isLookup, Use.text, Symbol.lookedUp, Symbol.whole?]

/-- An expression looks up its symbols and, apart from numbers and keywords, nothing else. -/
theorem Expr.IsSpoken.looksUp_iff {dialect : Dialect} {e : Expr} (h : e.IsSpoken dialect)
    (halone : e.isKeyword = false) {name : String} (hkeyword : Naming.isKeyword name = false)
    (hdigit : ∀ c ∈ name.toList.head?, c.isDigit = false) :
    e.LooksUp name ↔ ∃ symbol ∈ e.symbols, symbol.lookedUp = name := by
  unfold LooksUp
  rw [usesOf_of_reads (h.reads fun _ => halone)]
  constructor
  · rintro ⟨use, huse, hlookup, rfl⟩
    -- what is used without a symbol is a number, the name of an argument or a keyword
    rcases h.isFrom use huse with (hnumber | hargument | hword) | hdefined | ⟨symbol, hsymbol, hmem⟩
    · obtain ⟨c, hc, hcdigit⟩ := (Option.any_eq_true ..).1 hnumber
      rw [Use.text, String.toList_ofList] at hdigit
      rw [hdigit c hc] at hcdigit
      cases hcdigit
    · simp [Use.isLookup, hargument] at hlookup
    · rw [Naming.isKeyword, List.contains_iff_mem.2 hword] at hkeyword
      cases hkeyword
    · cases hdefined
    · exact ⟨symbol, hsymbol, Symbol.exists_lookup_iff.1 ⟨use, hmem, hlookup, rfl⟩⟩
  · rintro ⟨symbol, hsymbol, hname⟩
    obtain ⟨use, huse, hlookup⟩ := Symbol.exists_lookup_iff.2 hname
    exact ⟨use, h.mem_uses_of_mem_symbols hsymbol huse, hlookup⟩

/-! ## What a class looks up -/

namespace ClassBlock

/-- What the body of a class evaluates: the name of the table, what is stated of the table, and the
annotation and the value of each attribute. -/
def evaluated (block : ClassBlock) : List Expr :=
  .literal block.table :: block.tableArgs.toList ++ block.attributes.flatMap fun a =>
    [a.hint, a.value]

/-- An attribute of the class has a name that the body of the class looks up. -/
def Hides (block : ClassBlock) (name : String) : Prop :=
  name ∈ block.attributes.map Attribute.name ∧ ∃ e ∈ block.evaluated, e.LooksUp name

instance (block : ClassBlock) (name : String) : Decidable (block.Hides name) :=
  inferInstanceAs (Decidable (_ ∧ ∃ e ∈ block.evaluated, _))

theorem symbolsOfAll_evaluated (block : ClassBlock) :
    Expr.symbolsOfAll block.evaluated = block.symbols := by
  have hattributes : Expr.symbolsOfAll (block.attributes.flatMap fun a => [a.hint, a.value]) =
      block.attributes.flatMap Attribute.symbols := by
    rw [Expr.symbolsOfAll_eq_flatMap, List.flatMap_assoc]
    refine List.flatMap_congr fun a _ => ?_
    simp [Attribute.symbols]
  have hargs : Expr.symbolsOfAll block.tableArgs.toList = block.argsSymbols := by
    unfold argsSymbols
    cases block.tableArgs with
    | none => rfl
    | some args => simp [Expr.symbolsOfAll]
  rw [evaluated, Expr.symbolsOfAll_append, Expr.symbolsOfAll, Expr.symbols, List.nil_append, hargs,
    hattributes, symbols]

end ClassBlock

end Code

/-! ## What a declarative class looks up -/

namespace Declarative

variable (table : Table) (dialect : Dialect) (options : Options) (label : String)

theorem map_name_classOf :
    (classOf dialect options table label).attributes.map Attribute.name = attributeNames table :=
  map_zipWith_right (fun _ _ => rfl) (length_attributeNames table)

theorem isSpoken_evaluated :
    ∀ e ∈ (classOf dialect options table label).evaluated,
      e.IsSpoken dialect ∧ e.isKeyword = false := by
  have hattributes := isSpoken_attributesOf table dialect options
  have hargs := isSpoken_tableArgs table dialect options
  refine List.forall_mem_append.2 ⟨List.forall_mem_cons.2 ⟨⟨.literal, rfl⟩, ?_⟩, ?_⟩
  · exact fun e he => hargs e (Option.mem_toList.1 he)
  · refine List.forall_mem_flatMap.2 fun a ha => ?_
    have hspoken := hattributes a ha
    exact List.forall_mem_cons.2 ⟨⟨hspoken.hint, hspoken.hint_ne⟩,
      List.forall_mem_singleton.2 ⟨hspoken.value, hspoken.value_ne⟩⟩

/-- A name of an attribute is neither a keyword nor a number. -/
theorem isKeyword_of_mem_attributeNames {name : String} (h : name ∈ attributeNames table) :
    isKeyword name = false ∧ ∀ c ∈ name.toList.head?, c.isDigit = false := by
  obtain ⟨asked, hasked, others, rfl⟩ := exists_of_mem_claimAll h
  obtain ⟨column, _, rfl⟩ := List.mem_map.1 hasked
  have hreserved := isReservedAttribute_attributeName column.name
  exact ⟨isKeyword_of_isReservedAttribute (isReservedAttribute_freeName hreserved others),
    forall_mem_head?_freeName (p := fun c => c.isDigit = false) rfl
      (isDigit_of_mem_head?_attributeName column.name) others⟩

/-- An attribute hides its name exactly if the class mentions a symbol that is looked up by it. -/
theorem hides_classOf_iff_mem_symbols {name : String} :
    (classOf dialect options table label).Hides name ↔
      name ∈ attributeNames table ∧
        ∃ symbol ∈ (classOf dialect options table label).symbols, symbol.lookedUp = name := by
  have hspoken := isSpoken_evaluated table dialect options label
  unfold ClassBlock.Hides
  rw [map_name_classOf, ← ClassBlock.symbolsOfAll_evaluated, Expr.symbolsOfAll_eq_flatMap]
  refine and_congr_right fun hname => ?_
  obtain ⟨hkeyword, hdigit⟩ := isKeyword_of_mem_attributeNames table hname
  constructor
  · rintro ⟨e, he, hlookup⟩
    obtain ⟨symbol, hsymbol, hname⟩ :=
      ((hspoken e he).1.looksUp_iff (hspoken e he).2 hkeyword hdigit).1 hlookup
    exact ⟨symbol, List.mem_flatMap.2 ⟨e, he, hsymbol⟩, hname⟩
  · rintro ⟨symbol, hsymbol, hname⟩
    obtain ⟨e, he, hsymbol⟩ := List.mem_flatMap.1 hsymbol
    exact ⟨e, he, ((hspoken e he).1.looksUp_iff (hspoken e he).2 hkeyword hdigit).2
      ⟨symbol, hsymbol, hname⟩⟩

/-- What a class mentions needs no import or is looked up by a reserved name. -/
theorem eq_builtin_or_reserved {symbol : Symbol}
    (h : symbol ∈ (classOf dialect options table label).symbols) :
    symbol = builtin symbol.lookedUp ∨ symbol.lookedUp ∈ reservedAttributeNames := by
  have hknown : symbol ∈ (fixedSymbols ++ ownSymbols) ++
      (ColumnType.hintSymbols dialect ++ ColumnType.typeSymbols dialect) := by
    rcases List.mem_append.1 (symbols_classOf_subset table dialect options label h) with h | h
    · exact List.mem_append_left _ (List.mem_append_right _ h)
    · exact List.mem_append_right _ (table.typeSymbols_subset dialect h)
  obtain ⟨hsource, hwhole⟩ := reserved_of_mem_known dialect symbol hknown
  obtain ⟨home, name⟩ := symbol
  cases home with
  | builtin => exact Or.inl rfl
  | importedFrom module => exact Or.inr (List.mem_append_left _ (hsource rfl))
  | memberOf module => exact Or.inr (List.mem_append_right _ (hwhole module rfl))

/-- A class mentions a type that needs no import exactly if the annotation of a column does. -/
theorem builtin_mem_symbols_classOf_iff {name : String} :
    builtin name ∈ (classOf dialect options table label).symbols ↔
      ∃ column ∈ table.columns,
        builtin name ∈ (ColumnType.ofColumn column dialect).hint.symbols := by
  have hforeign : ∀ symbol ∈ ownSymbols ++ ColumnType.typeSymbols dialect,
      symbol.home ≠ .builtin := by
    cases dialect <;> decide +kernel
  constructor
  · intro h
    rcases List.mem_append.1 (symbols_classOf_subset table dialect options label h)
      with hown | htypes
    · exact absurd rfl (hforeign _ (List.mem_append_left _ hown))
    · obtain ⟨column, hcolumn, htype⟩ := List.mem_flatMap.1 htypes
      refine ⟨column, hcolumn, (List.mem_append.1 htype).resolve_right fun htype => ?_⟩
      have hmem := ColumnType.symbols_typeExpr_subset column dialect htype
      exact hforeign _ (List.mem_append_right _ hmem) rfl
  · rintro ⟨column, hcolumn, hhint⟩
    exact symbols_hint_subset_classOf table dialect options hcolumn label hhint

/-- A type that needs no import is the name of an attribute exactly if it is that of a column. -/
theorem mem_attributeNames_of_builtin {name : String} (h : name ∈ builtinTypes) :
    name ∈ attributeNames table ↔ ∃ column ∈ table.columns, column.name = name := by
  have hplain : ∀ type ∈ builtinTypes, '_' ∉ type.toList ∧ attributeName type = type ∧
      type ∉ reservedAttributeNames := by
    decide +kernel
  obtain ⟨hunderscore, hkept, hfree⟩ := hplain name h
  constructor
  · intro hname
    obtain ⟨asked, hasked, others, rfl⟩ := exists_of_mem_claimAll hname
    obtain ⟨column, hcolumn, rfl⟩ := List.mem_map.1 hasked
    -- neither did the column's name need a repair nor was it taken, or it would have an underscore
    have hself : freeName others (attributeName column.name) = attributeName column.name :=
      (freeName_eq_or _ _).resolve_right fun hlast =>
        hunderscore (List.mem_of_getLast? hlast)
    rw [hself] at hunderscore ⊢
    exact ⟨column, hcolumn, ((attributeName_eq_or _).resolve_right hunderscore).symm⟩
  · rintro ⟨column, hcolumn, rfl⟩
    exact mem_claimAll_of_mem (List.mem_map.2 ⟨column, hcolumn, hkept⟩) hfree

/-- The attributes of a class hide nothing that is imported. They hide exactly those types without
an import that a column of the table is called as and that the annotation of a column mentions. -/
theorem hides_classOf_iff {name : String} :
    (classOf dialect options table label).Hides name ↔
      name ∈ builtinTypes ∧ (∃ column ∈ table.columns, column.name = name) ∧
        ∃ column ∈ table.columns,
          builtin name ∈ (ColumnType.ofColumn column dialect).hint.symbols := by
  rw [hides_classOf_iff_mem_symbols]
  constructor
  · rintro ⟨hname, symbol, hsymbol, rfl⟩
    have hbuiltin : symbol = builtin symbol.lookedUp :=
      (eq_builtin_or_reserved table dialect options label hsymbol).resolve_right
        (not_mem_of_mem_claimAll _ hname)
    rw [hbuiltin, builtin_mem_symbols_classOf_iff] at hsymbol
    obtain ⟨column, hcolumn, hhint⟩ := hsymbol
    have hword := (ColumnType.isSpoken_ofColumn column dialect).hint.symbols _ hhint
    have htype := mem_builtinTypes_of_mem_vocabulary _ hword rfl
    exact ⟨htype, (mem_attributeNames_of_builtin table htype).1 hname, column, hcolumn, hhint⟩
  · rintro ⟨htype, hcolumn, hhint⟩
    exact ⟨(mem_attributeNames_of_builtin table htype).2 hcolumn, builtin name,
      (builtin_mem_symbols_classOf_iff table dialect options label).2 hhint, rfl⟩

/-- A table with a column that is called as the type of its values. -/
def files : Table :=
  { name := "files"
    columns := [{ name := "id", position := 1, nullable := false, typeName := "int4" },
      { name := "bytes", position := 2, typeName := "bytea" }]
    constraints := [⟨"files_pkey", .primaryKey, ["id"]⟩] }

theorem hides_classOf_files : (classOf .postgresql {} files "Files").Hides "bytes" := by
  decide +kernel

end Declarative

end SchemaCodegen
