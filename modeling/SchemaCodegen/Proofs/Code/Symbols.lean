import SchemaCodegen.Proofs.Code.Vocabulary

/-!
# Proofs: which symbols the parts of the code mention

Most parts of the code mention one symbol only, the one that they call, because what the schema
brings into them stands in literals and numbers. The types of columns are the exception: they
mention the types of the dialect, and the type that stands for an unknown one exactly where it is
needed.
-/

namespace SchemaCodegen.Code

open SchemaCodegen.Code.Vocabulary

namespace Expr

theorem symbolsOfAll_append (es fs : List Expr) :
    symbolsOfAll (es ++ fs) = symbolsOfAll es ++ symbolsOfAll fs := by
  rw [symbolsOfAll_eq_flatMap, symbolsOfAll_eq_flatMap, symbolsOfAll_eq_flatMap,
    List.flatMap_append]

theorem symbolsOfAll_eq_nil {es : List Expr} (h : ∀ e ∈ es, e.symbols = []) :
    symbolsOfAll es = [] := by
  rw [symbolsOfAll_eq_flatMap, List.flatMap_eq_nil_iff]
  exact h

/-- Several expressions mention no more than each of them. -/
theorem symbolsOfAll_subset {es : List Expr} {symbols : List Symbol}
    (h : ∀ e ∈ es, e.symbols ⊆ symbols) : symbolsOfAll es ⊆ symbols := by
  intro symbol hsymbol
  rw [symbolsOfAll_eq_flatMap, List.mem_flatMap] at hsymbol
  obtain ⟨e, he, hsymbol⟩ := hsymbol
  exact h e he hsymbol

theorem symbolsOfAll_literals (texts : List String) : symbolsOfAll (literals texts) = [] :=
  symbolsOfAll_eq_nil (List.forall_mem_map.2 fun _ _ => rfl)

/-- A call whose arguments mention nothing mentions what it calls. -/
theorem symbols_call {callee : Symbol} {args : List Expr} (h : symbolsOfAll args = []) :
    (call callee args).symbols = [callee] := by
  rw [symbols, h]

end Expr

/-! ## Constraints, indexes, identities, comments, defaults -/

variable {dialect : Dialect}

theorem symbolsOfAll_references (target : ForeignKey) :
    Expr.symbolsOfAll (references target dialect) = [] :=
  Expr.symbolsOfAll_eq_nil (List.forall_mem_map.2 fun _ _ => rfl)

theorem symbolsOfAll_actionArguments (target : ForeignKey) :
    Expr.symbolsOfAll (actionArguments target) = [] := by
  have haction : ∀ keyword rule, Expr.symbolsOfAll (actionArgument keyword rule) = [] := by
    intro keyword rule
    unfold actionArgument
    dsimp only
    split
    · rfl
    · rfl
  unfold actionArguments
  rw [Expr.symbolsOfAll_append, haction, haction, List.append_nil]

theorem symbols_columnReference (target : ForeignKey) :
    (columnReference target dialect).symbols = [core "ForeignKey"] := by
  apply Expr.symbols_call
  rw [Expr.symbolsOfAll_append, symbolsOfAll_actionArguments, List.append_nil]
  apply Expr.symbolsOfAll_eq_nil
  intro e he
  obtain ⟨column, _, rfl⟩ := List.mem_map.1 (List.mem_of_mem_take he)
  rfl

theorem symbols_foreignKeyConstraint (constraint : Constraint) (target : ForeignKey) :
    (foreignKeyConstraint constraint target dialect).symbols = [core "ForeignKeyConstraint"] := by
  apply Expr.symbols_call
  have hlists : Expr.symbolsOfAll
      [.list (Expr.literals constraint.columns), .list (references target dialect)] = [] := by
    simp only [Expr.symbolsOfAll, Expr.symbols, Expr.symbolsOfAll_literals,
      symbolsOfAll_references, List.append_nil]
  rw [Expr.symbolsOfAll_append, Expr.symbolsOfAll_append, hlists, symbolsOfAll_actionArguments]
  rfl

theorem symbols_columnsConstraint (kind : String) (constraint : Constraint) :
    (columnsConstraint kind constraint).symbols = [core kind] := by
  apply Expr.symbols_call
  rw [Expr.symbolsOfAll_append, Expr.symbolsOfAll_literals]
  rfl

theorem symbols_indexDeclaration (index : Index) :
    (indexDeclaration index).symbols = [core "Index"] := by
  apply Expr.symbols_call
  rw [Expr.symbolsOfAll_append, Expr.symbolsOfAll, Expr.symbolsOfAll_literals]
  by_cases hunique : index.unique = true
  · rw [if_pos hunique]
    rfl
  · rw [if_neg hunique]
    rfl

theorem symbols_identityDeclaration {column : Column} {e : Expr}
    (h : identityDeclaration? column dialect = some e) : e.symbols = [core "Identity"] := by
  have hsequence : ∀ identity, Expr.symbolsOfAll (sequenceArguments identity dialect) = [] := by
    intro identity
    cases dialect <;> rfl
  unfold identityDeclaration? at h
  split at h
  · cases h
    apply Expr.symbols_call
    rw [Expr.symbolsOfAll_append, List.append_eq_nil_iff]
    constructor
    · split <;> rfl
    · split
      · exact hsequence _
      · rfl
  · cases h

theorem symbolsOfAll_commentArguments (comment : Option String) (options : Options) :
    Expr.symbolsOfAll (commentArguments comment options) = [] := by
  unfold commentArguments
  split
  · rfl
  · cases comment <;> rfl

theorem symbolsOfAll_defaultArgument_subset (column : Column) :
    Expr.symbolsOfAll (defaultArgument column dialect) ⊆ [ServerDefault.textSymbol] := by
  unfold defaultArgument ServerDefault.forColumn
  split
  · exact List.nil_subset _
  · split
    · exact List.nil_subset _
    · exact fun _ hsymbol => hsymbol

end SchemaCodegen.Code

/-! ## Types of columns -/

namespace SchemaCodegen

open SchemaCodegen.Code SchemaCodegen.Code.Vocabulary

/-- The arguments of a type mention nothing. -/
theorem TypeRow.symbolsOfAll_argumentsFor {arguments : TypeArguments}
    (h : arguments.isConstant = true) (column : Column) :
    Expr.symbolsOfAll (argumentsFor column arguments) = [] := by
  cases arguments with
  | bare => rfl
  | fixed argument =>
    cases argument with
    | number value => rfl
    | truth value => rfl
    | _ => cases h
  | length =>
    rw [argumentsFor]
    split
    · split <;> rfl
    · rfl
  | numeric =>
    rw [argumentsFor]
    split <;> rfl

namespace ColumnType

/-- A type expression is a bare type or a type with arguments. -/
theorem typeExpr_eq (type : ColumnType) :
    (∃ symbol, type.typeExpr = .symbol symbol) ∨
      ∃ callee args, type.typeExpr = .call callee args := by
  cases type with
  | scalar symbol args hint =>
    cases args with
    | nil => exact Or.inl ⟨symbol, rfl⟩
    | cons arg args => exact Or.inr ⟨symbol, arg :: args, rfl⟩
  | enumeration labels name => exact Or.inr ⟨_, _, rfl⟩
  | array element => exact Or.inr ⟨_, _, rfl⟩
  | unmapped => exact Or.inl ⟨_, rfl⟩

theorem symbols_applied {type : Symbol} {args : List Expr} (h : Expr.symbolsOfAll args = []) :
    (applied type args).symbols = [type] := by
  cases args with
  | nil => rfl
  | cons arg args => exact Expr.symbols_call h

theorem symbols_typeFor {dialect : Dialect} {row : TypeRow} (hrow : row ∈ rowsOf dialect)
    (column : Column) : (row.typeFor column).typeExpr.symbols = [row.symbol] :=
  symbols_applied (TypeRow.symbolsOfAll_argumentsFor (isConstant_of_mem_rowsOf row hrow) column)

theorem symbols_enumeration (labels : List String) (name : String) :
    (enumeration labels name).typeExpr.symbols = [enumSymbol] := by
  apply Expr.symbols_call
  rw [Expr.symbolsOfAll_append, Expr.symbolsOfAll_literals]
  rfl

theorem symbols_array (element : ColumnType) :
    (array element).typeExpr.symbols = arraySymbol :: element.typeExpr.symbols := by
  rw [typeExpr, Expr.symbols, Expr.symbolsOfAll, Expr.symbolsOfAll, List.append_nil]

/-- The types of a dialect. -/
def typeSymbols (dialect : Dialect) : List Symbol :=
  [arraySymbol, enumSymbol, nullSymbol] ++ (rowsOf dialect).map TypeRow.symbol

/-- What the annotations of a dialect mention. -/
def hintSymbols (dialect : Dialect) : List Symbol :=
  [builtin "list", builtin "str", typing "Any"] ++ (rowsOf dialect).map TypeRow.hint

theorem symbols_typeExpr_subset (column : Column) (dialect : Dialect) :
    (ofColumn column dialect).typeExpr.symbols ⊆ typeSymbols dialect := by
  refine ofColumn_cases (motive := fun type => type.typeExpr.symbols ⊆ typeSymbols dialect)
    ?_ ?_ ?_ ?_
  · intro row hrow
    rw [symbols_typeFor hrow]
    have hmem := List.mem_append_right [arraySymbol, enumSymbol, nullSymbol]
      (List.mem_map_of_mem (f := TypeRow.symbol) hrow)
    exact List.cons_subset.2 ⟨hmem, List.nil_subset _⟩
  · intro labels name
    rw [symbols_enumeration]
    exact List.cons_subset.2 ⟨by simp [typeSymbols], List.nil_subset _⟩
  · intro element ih
    rw [symbols_array]
    exact List.cons_subset.2 ⟨by simp [typeSymbols], ih⟩
  · exact List.cons_subset.2 ⟨by simp [typeSymbols], List.nil_subset _⟩

theorem symbols_hint_subset (column : Column) (dialect : Dialect) :
    (ofColumn column dialect).hint.symbols ⊆ hintSymbols dialect := by
  refine ofColumn_cases (motive := fun type => type.hint.symbols ⊆ hintSymbols dialect)
    ?_ ?_ ?_ ?_
  · intro row hrow
    have hmem := List.mem_append_right [builtin "list", builtin "str", typing "Any"]
      (List.mem_map_of_mem (f := TypeRow.hint) hrow)
    exact List.cons_subset.2 ⟨hmem, List.nil_subset _⟩
  · exact fun _ _ => List.cons_subset.2 ⟨by simp [hintSymbols], List.nil_subset _⟩
  · exact fun element ih => List.cons_subset.2 ⟨by simp [hintSymbols], ih⟩
  · exact List.cons_subset.2 ⟨by simp [hintSymbols], List.nil_subset _⟩

/-- The type of a column mentions the type for unknown ones exactly if it, or that of its innermost
elements, is unknown. -/
theorem nullSymbol_mem_symbols_iff (column : Column) (dialect : Dialect) :
    nullSymbol ∈ (ofColumn column dialect).typeExpr.symbols ↔
      (ofColumn column dialect).isFallback = true := by
  refine ofColumn_cases
    (motive := fun type => nullSymbol ∈ type.typeExpr.symbols ↔ type.isFallback = true)
    ?_ ?_ ?_ ?_
  · intro row hrow
    have hnames : ∀ row ∈ rowsOf dialect, nullSymbol ≠ row.symbol := by
      cases dialect <;> decide
    rw [symbols_typeFor hrow, List.mem_singleton]
    exact iff_of_false (hnames row hrow) Bool.false_ne_true
  · intro labels name
    rw [symbols_enumeration, List.mem_singleton]
    exact iff_of_false (by decide) Bool.false_ne_true
  · intro element ih
    rw [symbols_array, List.mem_cons, isFallback]
    exact (or_iff_right (by decide)).trans ih
  · exact iff_of_true (List.mem_singleton_self _) rfl

theorem nullSymbol_not_mem_hintSymbols (dialect : Dialect) : nullSymbol ∉ hintSymbols dialect := by
  cases dialect <;> decide

end ColumnType

end SchemaCodegen
