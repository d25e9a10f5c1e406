import SchemaCodegen.Code.Constraints
import SchemaCodegen.Proofs.Code.Plain
import SchemaCodegen.Proofs.ColumnType.Cases

/-!
# Proofs: the vocabulary of generated code

Whatever a schema brings into an expression stands in a literal or is a number. The names that an
expression writes bare are those of a small vocabulary, of the known types and of keyword arguments.
All of these are plain, which is what keeps the text of a schema out of the structure of the code,
and within one dialect no two symbols share a name.
-/

namespace SchemaCodegen.Code

open SchemaCodegen.Text SchemaCodegen.Code.Vocabulary

/-! ## The vocabulary -/

/-- The symbols that code uses in every dialect. -/
def commonSymbols : List Symbol :=
  ["Column", "Enum", "ForeignKey", "ForeignKeyConstraint", "Identity", "Index", "MetaData",
      "PrimaryKeyConstraint", "Table", "UniqueConstraint", "text"].map core ++
    ["DeclarativeBase", "Mapped", "mapped_column"].map orm ++ ["Any", "Optional"].map typing ++
    [ColumnType.arraySymbol, ColumnType.nullSymbol] ++ ["list", "str"].map builtin

/-- The symbols of a dialect: the common ones, and the known types with their annotations. -/
def vocabulary (dialect : Dialect) : List Symbol :=
  commonSymbols ++ (ColumnType.rowsOf dialect).flatMap fun row => [row.symbol, row.hint]

/-- The names of keyword arguments. -/
def argumentNames : List String :=
  ["always", "cache", "comment", "cycle", "increment", "maxvalue", "minvalue", "name", "nullable",
    "ondelete", "onupdate", "primary_key", "schema", "server_default", "start", "unique"]

theorem mem_vocabulary_of_common {dialect : Dialect} {symbol : Symbol}
    (h : symbol ∈ commonSymbols) : symbol ∈ vocabulary dialect :=
  List.mem_append_left _ h

theorem mem_vocabulary_of_row {dialect : Dialect} {row : TypeRow} {symbol : Symbol}
    (hrow : row ∈ ColumnType.rowsOf dialect) (h : symbol ∈ [row.symbol, row.hint]) :
    symbol ∈ vocabulary dialect :=
  List.mem_append_right _ (List.mem_flatMap.2 ⟨row, hrow, h⟩)

/-- An expression over the vocabulary of a dialect. -/
abbrev Expr.IsSpoken (dialect : Dialect) (e : Expr) : Prop :=
  e.UsesOnly (· ∈ vocabulary dialect) (· ∈ argumentNames)

/-- The modules that symbols are imported from by name. -/
def sourceModules : List String :=
  ["sqlalchemy", "sqlalchemy.dialects.mssql", "sqlalchemy.dialects.postgresql", "sqlalchemy.orm",
    "sqlalchemy.sql.sqltypes", "typing"]

theorem isWord_of_mem_vocabulary {dialect : Dialect} :
    ∀ symbol ∈ vocabulary dialect, symbol.IsWord := by
  cases dialect <;> decide +kernel

theorem source_of_mem_vocabulary {dialect : Dialect} :
    ∀ symbol ∈ vocabulary dialect, ∀ module ∈ symbol.source?, module ∈ sourceModules := by
  cases dialect <;> decide +kernel

/-- No two symbols of a dialect that are imported by name share it. -/
theorem eq_of_name_eq {dialect : Dialect} :
    ∀ s ∈ vocabulary dialect, ∀ t ∈ vocabulary dialect, s.source?.isSome → t.source?.isSome →
      s.name = t.name → s = t := by
  cases dialect <;> decide +kernel

/-- The types that are known without an import. -/
def builtinTypes : List String :=
  ["int", "float", "str", "bool", "bytes", "dict", "list"]

theorem mem_builtinTypes_of_mem_vocabulary {dialect : Dialect} :
    ∀ symbol ∈ vocabulary dialect, symbol.home = .builtin → symbol.name ∈ builtinTypes := by
  cases dialect <;> decide +kernel

/-- No symbol that is imported by name is called as a module that is imported as a whole. -/
theorem name_ne_whole {dialect : Dialect} :
    ∀ symbol ∈ vocabulary dialect, ∀ other ∈ vocabulary dialect, symbol.source?.isSome →
      ∀ module ∈ other.whole?, symbol.name ≠ module := by
  cases dialect <;> decide +kernel

theorem isPlain_of_mem_vocabulary {dialect : Dialect} :
    ∀ symbol ∈ vocabulary dialect, symbol.IsPlain := by
  have hmodules : ∀ module ∈ sourceModules, Text.IsPlain module := by decide
  intro symbol hsymbol
  exact (isWord_of_mem_vocabulary symbol hsymbol).isPlain fun module hmodule =>
    hmodules module (source_of_mem_vocabulary symbol hsymbol module hmodule)

theorem Expr.IsSpoken.isPlain {dialect : Dialect} {e : Expr} (h : e.IsSpoken dialect) :
    e.IsPlain :=
  h.mono isPlain_of_mem_vocabulary (by decide)

/-! ## Constraints, indexes, identities, comments, defaults -/

section Parts

variable {dialect : Dialect}

theorem isSpoken_literals (texts : List String) :
    ∀ e ∈ Expr.literals texts, e.IsSpoken dialect := by
  intro e he
  obtain ⟨text, _, rfl⟩ := List.mem_map.1 he
  exact .literal

theorem isSpoken_named (name : String) : (named name).IsSpoken dialect :=
  .keyword (by decide) .literal

theorem isSpoken_flag {name : String} (h : name ∈ argumentNames) : (flag name).IsSpoken dialect :=
  .keyword h .truth

theorem isSpoken_references (target : ForeignKey) :
    ∀ e ∈ references target dialect, e.IsSpoken dialect := by
  intro e he
  obtain ⟨column, _, rfl⟩ := List.mem_map.1 he
  exact .literal

theorem isSpoken_actionArguments (target : ForeignKey) :
    ∀ e ∈ actionArguments target, e.IsSpoken dialect := by
  have haction : ∀ {keyword : String} (rule : String), keyword ∈ argumentNames →
      ∀ e ∈ actionArgument keyword rule, e.IsSpoken dialect := by
    intro keyword rule hkeyword e he
    rw [actionArgument] at he
    split at he
    · cases he
    · rw [List.mem_singleton.1 he]
      exact .keyword hkeyword .literal
  exact List.forall_mem_append.2 ⟨haction _ (by decide), haction _ (by decide)⟩

theorem isSpoken_columnReference (target : ForeignKey) :
    (columnReference target dialect).IsSpoken dialect := by
  refine .call (mem_vocabulary_of_common (by decide)) (List.forall_mem_append.2 ⟨?_, ?_⟩)
  · exact fun e he => isSpoken_references target e (List.mem_of_mem_take he)
  · exact isSpoken_actionArguments target

theorem isSpoken_foreignKeyConstraint (constraint : Constraint) (target : ForeignKey) :
    (foreignKeyConstraint constraint target dialect).IsSpoken dialect := by
  refine .call (mem_vocabulary_of_common (by decide)) ?_
  simp only [List.forall_mem_append, List.forall_mem_cons]
  exact ⟨⟨⟨.list (isSpoken_literals _), .list (isSpoken_references target),
    List.forall_mem_nil _⟩, isSpoken_actionArguments target⟩, isSpoken_named _,
    List.forall_mem_nil _⟩

theorem isSpoken_columnsConstraint {kind : String} (h : core kind ∈ commonSymbols)
    (constraint : Constraint) : (columnsConstraint kind constraint).IsSpoken dialect :=
  .call (mem_vocabulary_of_common h) (List.forall_mem_append.2
    ⟨isSpoken_literals _, List.forall_mem_singleton.2 (isSpoken_named _)⟩)

theorem isSpoken_indexDeclaration (index : Index) :
    (indexDeclaration index).IsSpoken dialect := by
  have hunique : ∀ e ∈ if index.unique then [flag "unique"] else [], e.IsSpoken dialect := by
    split
    · exact List.forall_mem_singleton.2 (isSpoken_flag (by decide))
    · exact List.forall_mem_nil _
  exact .call (mem_vocabulary_of_common (by decide)) (List.forall_mem_cons.2
    ⟨.literal, List.forall_mem_append.2 ⟨isSpoken_literals _, hunique⟩⟩)

theorem isSpoken_sequenceArguments (identity : Identity) :
    ∀ e ∈ sequenceArguments identity dialect, e.IsSpoken dialect := by
  have hnumber : ∀ {name : String} {value : Int}, name ∈ argumentNames →
      (numberArgument name value).IsSpoken dialect := fun h => .keyword h .number
  cases dialect with
  | postgresql =>
    simp only [sequenceArguments, List.forall_mem_cons]
    exact ⟨hnumber (by decide), hnumber (by decide), hnumber (by decide), hnumber (by decide),
      .keyword (by decide) .truth, hnumber (by decide), List.forall_mem_nil _⟩
  | mssql =>
    simp only [sequenceArguments, List.forall_mem_cons]
    exact ⟨hnumber (by decide), hnumber (by decide), List.forall_mem_nil _⟩

theorem isSpoken_identityDeclaration {column : Column} {e : Expr}
    (h : identityDeclaration? column dialect = some e) : e.IsSpoken dialect := by
  rw [identityDeclaration?] at h
  split at h
  · cases h
    refine .call (mem_vocabulary_of_common (by decide)) (List.forall_mem_append.2 ⟨?_, ?_⟩)
    · split
      · exact List.forall_mem_singleton.2 (isSpoken_flag (by decide))
      · exact List.forall_mem_nil _
    · split
      · exact isSpoken_sequenceArguments _
      · exact List.forall_mem_nil _
  · cases h

theorem isSpoken_commentArguments (comment : Option String) (options : Options) :
    ∀ e ∈ commentArguments comment options, e.IsSpoken dialect := by
  intro e he
  rw [commentArguments] at he
  split at he
  · cases he
  · obtain ⟨text, _, rfl⟩ := Option.map_eq_some_iff.1 (Option.mem_toList.1 he)
    exact .keyword (by decide) .literal

theorem isSpoken_defaultArgument (column : Column) :
    ∀ e ∈ defaultArgument column dialect, e.IsSpoken dialect := by
  intro e he
  obtain ⟨default, hdefault, rfl⟩ := Option.map_eq_some_iff.1 (Option.mem_toList.1 he)
  refine .keyword (by decide) ?_
  rw [ServerDefault.forColumn] at hdefault
  split at hdefault
  · cases hdefault
  · split at hdefault
    · cases hdefault
    · cases hdefault
      exact .call (mem_vocabulary_of_common (by decide)) (List.forall_mem_singleton.2 .literal)

end Parts

end SchemaCodegen.Code

/-! ## Types of columns -/

namespace SchemaCodegen

open SchemaCodegen.Code SchemaCodegen.Code.Vocabulary

/-- Whether what a type is always given, if anything, is a number or a truth value. -/
def TypeArguments.isConstant : TypeArguments → Bool
  | .fixed (.number _) => true
  | .fixed (.truth _) => true
  | .fixed _ => false
  | .bare => true
  | .length => true
  | .numeric => true

/-- The arguments that a column gives to a type are numbers and truth values. -/
theorem TypeRow.isSpoken_argumentsFor {dialect : Dialect} {arguments : TypeArguments}
    (h : arguments.isConstant = true) (column : Column) :
    ∀ e ∈ argumentsFor column arguments, e.IsSpoken dialect := by
  cases arguments with
  | bare => exact List.forall_mem_nil _
  | fixed argument =>
    refine List.forall_mem_singleton.2 ?_
    cases argument with
    | number value => exact .number
    | truth value => exact .truth
    | _ => cases h
  | length =>
    rw [argumentsFor]
    split
    · split
      · exact List.forall_mem_singleton.2 .number
      · exact List.forall_mem_nil _
    · exact List.forall_mem_nil _
  | numeric =>
    rw [argumentsFor]
    split
    · exact List.forall_mem_cons.2 ⟨.number, List.forall_mem_singleton.2 .number⟩
    · exact List.forall_mem_singleton.2 .number
    · exact List.forall_mem_nil _

/-- A type whose expression and annotation are over the vocabulary of a dialect. -/
structure ColumnType.IsSpoken (dialect : Dialect) (type : ColumnType) : Prop where
  /-- The type expression is. -/
  typeExpr : type.typeExpr.IsSpoken dialect
  /-- The annotation is. -/
  hint : type.hint.IsSpoken dialect

theorem ColumnType.isConstant_of_mem_rowsOf {dialect : Dialect} :
    ∀ row ∈ rowsOf dialect, row.arguments.isConstant = true := by
  cases dialect <;> decide

theorem ColumnType.isSpoken_typeFor {dialect : Dialect} {row : TypeRow}
    (hrow : row ∈ rowsOf dialect)
    (column : Column) : (row.typeFor column).IsSpoken dialect := by
  have hsymbol : row.symbol ∈ vocabulary dialect := mem_vocabulary_of_row hrow (by simp)
  have hargs : ∀ e ∈ TypeRow.argumentsFor column row.arguments, e.IsSpoken dialect :=
    TypeRow.isSpoken_argumentsFor (isConstant_of_mem_rowsOf row hrow) column
  refine { typeExpr := ?_, hint := .symbol (mem_vocabulary_of_row hrow (by simp)) }
  unfold TypeRow.typeFor ColumnType.typeExpr
  cases hcases : TypeRow.argumentsFor column row.arguments with
  | nil => exact .symbol hsymbol
  | cons arg args => exact .call hsymbol (hcases ▸ hargs)

/-- The type of a column is over the vocabulary of its dialect. -/
theorem ColumnType.isSpoken_ofColumn (column : Column) (dialect : Dialect) :
    (ofColumn column dialect).IsSpoken dialect := by
  refine ofColumn_cases (motive := fun type => type.IsSpoken dialect) ?_ ?_ ?_ ?_
  · -- a row of the dialect
    exact fun row hrow => isSpoken_typeFor hrow column
  · -- an enumeration
    intro labels name
    exact
      { typeExpr := .call (mem_vocabulary_of_common (by decide)) (List.forall_mem_append.2
          ⟨isSpoken_literals _, List.forall_mem_singleton.2 (isSpoken_named _)⟩)
        hint := .symbol (mem_vocabulary_of_common (by decide)) }
  · -- an array
    intro element h
    exact
      { typeExpr := .call (mem_vocabulary_of_common (by decide))
          (List.forall_mem_singleton.2 h.typeExpr)
        hint := .index (mem_vocabulary_of_common (by decide)) h.hint }
  · -- the unknown type
    exact
      { typeExpr := .symbol (mem_vocabulary_of_common (by decide))
        hint := .symbol (mem_vocabulary_of_common (by decide)) }

end SchemaCodegen
