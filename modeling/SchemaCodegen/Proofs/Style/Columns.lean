import SchemaCodegen.Proofs.Style.ForeignKeys
import SchemaCodegen.Proofs.Style.Symbols

/-!
# Proofs: both styles say the same of a column

The attribute of a class and the column of a table assignment give the type of a column, its place
in the primary key, its default and its comment in the same words and in the same order. An
assignment says that a column does not admit NULL, a class that it does.
-/

namespace SchemaCodegen

open SchemaCodegen.Text SchemaCodegen.Code SchemaCodegen.Code.Vocabulary

/-! ## Columns in code -/

namespace Code

/-- Whether an argument of a column is one that not every style gives: the name of the column, a
foreign key, uniqueness, an identity, or that NULL is not admitted. -/
def Expr.isOwn (column : String) : Expr → Bool
  | .literal text => text == column
  | .call callee _ => callee.name == "ForeignKey" || callee.name == "Identity"
  | .keyword name (.truth value) => if value then name == "unique" else name == "nullable"
  | _ => false

/-- The arguments of a column that every style gives. -/
def Expr.sharedArgs (e : Expr) (column : String) : List Expr :=
  e.args.filter fun arg => !arg.isOwn column

/-- Whether the annotation is wrapped as an optional one. -/
def Attribute.isOptional (a : Attribute) : Bool :=
  match a.hint with
  | .index _ (.index head _) => head == typing "Optional"
  | _ => false

/-- The columns that an assignment lists. -/
def TableBlock.columns (block : TableBlock) : List Expr :=
  block.items.filter (Expr.calls "Column")

end Code

/-- What every style says of a column: its type, its place in the primary key, its default and its
comment. -/
def Table.factsOf (table : Table) (dialect : Dialect) (options : Options) (column : Column) :
    List Expr :=
  [(ColumnType.ofColumn column dialect).typeExpr] ++
    (if table.isPrimaryColumn column.name then [flag "primary_key"] else []) ++
    defaultArgument column dialect ++ commentArguments column.comment options

/-- An attribute of a class and a column of an assignment that say the same of a column. -/
structure ColumnsAgree (dialect : Dialect) (options : Options) (table : Table) (column : Column)
    (a : Attribute) (item : Expr) : Prop where
  /-- The attribute gives what every style says. -/
  inClass : a.value.sharedArgs column.name = table.factsOf dialect options column
  /-- So does the assignment, in the same order. -/
  inAssignment : item.sharedArgs column.name = table.factsOf dialect options column
  /-- The annotation is wrapped where the assignment neither gives the column a place in the
  primary key nor denies NULL. -/
  optional : a.isOptional = true ↔
    flag "primary_key" ∉ item.args ∧ .keyword "nullable" (.truth false) ∉ item.args
  /-- Wrapped or not, the annotation is that of the type. -/
  hint : a.hint = .index (orm "Mapped")
    (if a.isOptional then .index (typing "Optional") (ColumnType.ofColumn column dialect).hint
      else (ColumnType.ofColumn column dialect).hint)
  /-- The attribute begins with the name of the column where it has another name itself. -/
  named : a.value.args.head? = some (.literal column.name) ↔ a.name ≠ column.name

/-- A class and an assignment that agree on every column of their table. -/
structure BlocksAgree (dialect : Dialect) (options : Options) (table : Table) (block : ClassBlock)
    (assignment : TableBlock) : Prop where
  /-- The class has an attribute for each column. -/
  attributes : block.attributes.length = table.columns.length
  /-- The assignment lists each column. -/
  items : assignment.columns.length = table.columns.length
  /-- Column by column they say the same. -/
  columns : List.Forall₂
    (fun column said => ColumnsAgree dialect options table column said.1 said.2)
    table.columns (block.attributes.zip assignment.columns)

/-! ## Arguments that every style gives -/

/-- Arguments that a style gives by itself leave nothing. -/
theorem filter_isOwn_eq_nil {es : List Expr} {column : String}
    (h : ∀ e ∈ es, e.isOwn column = true) : (es.filter fun arg => !arg.isOwn column) = [] :=
  List.filter_eq_nil_iff.2 fun e he => by simp [h e he]

theorem filter_isOwn_eq_self {es : List Expr} {column : String}
    (h : ∀ e ∈ es, e.isOwn column = false) : (es.filter fun arg => !arg.isOwn column) = es :=
  List.filter_eq_self.2 fun e he => by simp [h e he]

namespace ColumnType

theorem isOwn_typeExpr (column : Column) (dialect : Dialect) (name : String) :
    (ofColumn column dialect).typeExpr.isOwn name = false := by
  rcases typeExpr_eq (ofColumn column dialect) with ⟨symbol, he⟩ | ⟨callee, args, he⟩
  · rw [he]
    rfl
  · have hnames : ∀ symbol ∈ typeSymbols dialect,
        (symbol.name == "ForeignKey" || symbol.name == "Identity") = false := by
      cases dialect <;> decide
    have hcallee : callee ∈ (ofColumn column dialect).typeExpr.symbols := by
      rw [he]
      exact List.mem_cons_self ..
    rw [he]
    exact hnames callee (symbols_typeExpr_subset column dialect hcallee)

/-- The annotation of a type is never wrapped by itself. -/
theorem isOptional_hint (type : ColumnType) (name : String) (value : Expr) :
    Attribute.isOptional ⟨name, .index (orm "Mapped") type.hint, value⟩ = false := by
  cases type <;> rfl

end ColumnType

section Arguments

variable {dialect : Dialect} {options : Options} {table : Table} {column : Column}

/-- What every style says of a column is given by none of them alone. -/
theorem isOwn_of_mem_factsOf :
    ∀ e ∈ table.factsOf dialect options column, e.isOwn column.name = false := by
  intro e he
  simp only [Table.factsOf, List.mem_append, List.mem_singleton] at he
  rcases he with ((rfl | he) | he) | he
  · exact ColumnType.isOwn_typeExpr column dialect column.name
  · split at he
    · rw [List.mem_singleton.1 he]
      rfl
    · cases he
  · obtain ⟨expression, rfl⟩ := exists_of_mem_defaultArgument he
    rfl
  · obtain ⟨text, rfl⟩ := exists_of_mem_commentArguments he
    rfl

theorem filter_factsOf :
    ((table.factsOf dialect options column).filter fun arg => !arg.isOwn column.name) =
      table.factsOf dialect options column :=
  filter_isOwn_eq_self isOwn_of_mem_factsOf

end Arguments

/-! ## Attributes -/

namespace Declarative

variable (dialect : Dialect) (options : Options) (table : Table) (column : Column) (name : String)

theorem sharedArgs_attributeOf :
    (attributeOf table dialect options column name).value.sharedArgs column.name =
      table.factsOf dialect options column := by
  have hname : (nameArgument column name).filter (fun arg => !arg.isOwn column.name) = [] := by
    apply filter_isOwn_eq_nil
    intro e he
    rw [eq_of_mem_nameArgument he]
    exact beq_self_eq_true column.name
  have hreference : (referenceArgument table column dialect options).filter
      (fun arg => !arg.isOwn column.name) = [] := by
    apply filter_isOwn_eq_nil
    intro e he
    obtain ⟨target, rfl⟩ := exists_of_mem_referenceArgument he
    rfl
  have hunique : (uniqueArgument table column options).filter
      (fun arg => !arg.isOwn column.name) = [] := by
    apply filter_isOwn_eq_nil
    intro e he
    rw [eq_of_mem_uniqueArgument he]
    rfl
  rw [← filter_factsOf]
  show (columnArguments table column name dialect options).filter _ = _
  unfold columnArguments Table.factsOf primaryKeyArgument
  simp only [List.filter_append, hname, hreference, hunique, List.nil_append, List.append_nil]

theorem isOptional_attributeOf :
    (attributeOf table dialect options column name).isOptional =
      (column.nullable && !table.isPrimaryColumn column.name) := by
  unfold attributeOf columnHint
  split
  · next h =>
    rw [h]
    rfl
  · next h =>
    rw [ColumnType.isOptional_hint, Bool.eq_false_iff.2 h]

theorem hint_attributeOf :
    (attributeOf table dialect options column name).hint = .index (orm "Mapped")
      (if (attributeOf table dialect options column name).isOptional then
        .index (typing "Optional") (ColumnType.ofColumn column dialect).hint
      else (ColumnType.ofColumn column dialect).hint) := by
  rw [isOptional_attributeOf]
  rfl

theorem head?_args_attributeOf :
    (attributeOf table dialect options column name).value.args.head? =
        some (.literal column.name) ↔ name ≠ column.name := by
  show (columnArguments table column name dialect options).head? = _ ↔ _
  unfold columnArguments nameArgument
  by_cases hname : name = column.name
  · -- the type expression comes first then, and it is no literal
    refine iff_of_false ?_ (not_not_intro hname)
    rcases ColumnType.typeExpr_eq (ColumnType.ofColumn column dialect) with
      ⟨symbol, he⟩ | ⟨callee, args, he⟩
    · simp [hname, he]
    · simp [hname, he]
  · exact iff_of_true (by simp [hname]) hname

end Declarative

/-! ## Columns of assignments -/

namespace TableObjects

variable (dialect : Dialect) (options : Options) (table : Table) (column : Column)

theorem sharedArgs_columnItem :
    (columnItem table dialect options column).sharedArgs column.name =
      table.factsOf dialect options column := by
  have hname : [Expr.literal column.name].filter (fun arg => !arg.isOwn column.name) = [] :=
    filter_isOwn_eq_nil (List.forall_mem_singleton.2 (beq_self_eq_true column.name))
  have hidentity : (identityDeclaration? column dialect).toList.filter
      (fun arg => !arg.isOwn column.name) = [] := by
    apply filter_isOwn_eq_nil
    intro e he
    obtain ⟨args, rfl⟩ := exists_of_mem_identity he
    rfl
  have hkey : (keyArgument table column).filter (fun arg => !arg.isOwn column.name) =
      (if table.isPrimaryColumn column.name then [flag "primary_key"] else []).filter
        (fun arg => !arg.isOwn column.name) := by
    unfold keyArgument
    split
    · rfl
    · split <;> rfl
  rw [← filter_factsOf]
  show (columnArguments table column dialect options).filter _ = _
  unfold columnArguments Table.factsOf
  rw [← List.singleton_append]
  simp only [List.filter_append, hname, hidentity, hkey, List.nil_append, List.append_nil]

/-- What is switched on or off by name is what the keys and NULL say of the column. -/
theorem truth_mem_args_columnItem (keyword : String) (value : Bool) :
    .keyword keyword (.truth value) ∈ (columnItem table dialect options column).args ↔
      .keyword keyword (.truth value) ∈ keyArgument table column := by
  show _ ∈ columnArguments table column dialect options ↔ _
  simp only [columnArguments, List.mem_append, List.mem_cons, List.not_mem_nil, or_false]
  constructor
  · -- every other part is of another shape
    rintro (((((h | h) | h) | h) | h) | h)
    · cases h
    · rcases ColumnType.typeExpr_eq (ColumnType.ofColumn column dialect) with
        ⟨symbol, he⟩ | ⟨callee, args, he⟩
      · rw [he] at h
        cases h
      · rw [he] at h
        cases h
    · obtain ⟨args, he⟩ := exists_of_mem_identity h
      cases he
    · exact h
    · obtain ⟨expression, he⟩ := exists_of_mem_defaultArgument h
      cases he
    · obtain ⟨text, he⟩ := exists_of_mem_commentArguments h
      cases he
  · exact fun h => Or.inl (Or.inl (Or.inr h))

/-- An assignment says of exactly those columns nothing about keys and NULL that admit it and are in
no primary key. -/
theorem admitsNull_columnItem :
    (flag "primary_key" ∉ (columnItem table dialect options column).args ∧
        .keyword "nullable" (.truth false) ∉ (columnItem table dialect options column).args) ↔
      (column.nullable && !table.isPrimaryColumn column.name) = true := by
  unfold flag
  rw [truth_mem_args_columnItem, truth_mem_args_columnItem]
  unfold keyArgument flag
  by_cases hkey : table.isPrimaryColumn column.name = true
  · simp [hkey]
  · by_cases hnull : column.nullable = true
    · simp [hkey, hnull]
    · simp [hkey, hnull]

theorem columns_blockOf (name : String) :
    (blockOf dialect options table name).columns =
      table.columns.map (columnItem table dialect options) := by
  have hcolumns : (table.columns.map (columnItem table dialect options)).filter
      (Expr.calls "Column") = table.columns.map (columnItem table dialect options) :=
    List.filter_eq_self.2 (List.forall_mem_map.2 fun _ _ => rfl)
  have hconstraints :
      (constraintItems table dialect options).filter (Expr.calls "Column") = [] := by
    rw [List.filter_eq_nil_iff]
    intro e he
    rcases cases_of_mem_constraintItems he with
      ⟨constraint, target, rfl⟩ | ⟨constraint, rfl⟩ | ⟨constraint, rfl⟩
    · exact Bool.false_ne_true
    · exact Bool.false_ne_true
    · exact Bool.false_ne_true
  have hindexes : (indexItems table options).filter (Expr.calls "Column") = [] := by
    rw [List.filter_eq_nil_iff]
    intro e he
    obtain ⟨index, rfl⟩ := exists_of_mem_indexItems he
    exact Bool.false_ne_true
  have hcomment : (commentArguments table.comment options).filter (Expr.calls "Column") = [] := by
    rw [List.filter_eq_nil_iff]
    intro e he
    obtain ⟨text, rfl⟩ := exists_of_mem_commentArguments he
    exact Bool.false_ne_true
  have hschema : (schemaItems table dialect).filter (Expr.calls "Column") = [] := by
    rw [List.filter_eq_nil_iff]
    intro e he
    obtain ⟨owner, rfl⟩ := exists_of_mem_schemaItems he
    exact Bool.false_ne_true
  show (itemsOf table dialect options).filter (Expr.calls "Column") = _
  unfold itemsOf
  simp only [List.filter_append, hcolumns, hconstraints, hindexes, hcomment, hschema,
    List.append_nil]

end TableObjects

/-! ## Agreement -/

theorem columnsAgree (dialect : Dialect) (options : Options) (table : Table) (column : Column)
    (name : String) :
    ColumnsAgree dialect options table column
      (Declarative.attributeOf table dialect options column name)
      (TableObjects.columnItem table dialect options column) := by
  refine { inClass := ?_, inAssignment := ?_, optional := ?_, hint := ?_, named := ?_ }
  · exact Declarative.sharedArgs_attributeOf dialect options table column name
  · exact TableObjects.sharedArgs_columnItem dialect options table column
  · rw [Declarative.isOptional_attributeOf]
    exact (TableObjects.admitsNull_columnItem dialect options table column).symm
  · exact Declarative.hint_attributeOf dialect options table column name
  · exact Declarative.head?_args_attributeOf dialect options table column name

theorem zip_zipWith_map {α β γ δ : Type} (f : α → β → γ) (g : α → δ) (as : List α) (bs : List β) :
    (List.zipWith f as bs).zip (as.map g) = List.zipWith (fun a b => (f a b, g a)) as bs := by
  induction as generalizing bs with
  | nil => rfl
  | cons a as ih =>
    cases bs with
    | nil => rfl
    | cons b bs => simp [ih]

theorem blocksAgree (dialect : Dialect) (options : Options) (table : Table)
    (name variableName : String) :
    BlocksAgree dialect options table (Declarative.classOf dialect options table name)
      (TableObjects.blockOf dialect options table variableName) := by
  have hnames := Declarative.length_attributeNames table
  have hitems := TableObjects.columns_blockOf dialect options table variableName
  refine { attributes := ?_, items := ?_, columns := ?_ }
  · exact Declarative.length_attributesOf table dialect options
  · rw [hitems, List.length_map]
  · rw [hitems]
    show List.Forall₂ _ _ ((List.zipWith _ _ _).zip _)
    rw [zip_zipWith_map]
    refine forall₂_zipWith_right (fun column label => ?_) hnames.symm
    exact columnsAgree dialect options table column label

/-- The class and the assignment of every table agree on its columns. -/
theorem blocksAgree_generate [Holding] (schema : Schema) (options : Options) :
    schema.WrittenAs options (BlocksAgree schema.dialect options) :=
  schema.writtenAs options fun table _ name variableName =>
    blocksAgree schema.dialect options table name variableName

end SchemaCodegen
