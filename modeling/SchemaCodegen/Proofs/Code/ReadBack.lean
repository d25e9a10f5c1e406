import SchemaCodegen.Code.Constraints
import SchemaCodegen.Proofs.ColumnType.Enumeration

/-!
# Proofs: generated code tells what it was made of

The names of columns, constraints, indexes, labels and types stand in generated code as literals in
the arguments of calls. Whatever the names are, two calls are written alike only if they state the
same names in the same order.
-/

namespace SchemaCodegen.Code

open SchemaCodegen.Code.Vocabulary SchemaCodegen.Text

theorem columnsConstraint_inj {kind : String} {constraint other : Constraint} :
    (columnsConstraint kind constraint).render = (columnsConstraint kind other).render ↔
      constraint.columns = other.columns ∧ constraint.name = other.name :=
  Expr.render_call_named_inj

/-- The arguments of an index behind its literals. -/
def uniqueFlags (unique : Bool) : List Expr :=
  if unique then [flag "unique"] else []

theorem indexDeclaration_eq (index : Index) :
    indexDeclaration index = .call (core "Index")
      (Expr.literals (index.name :: index.columns) ++ uniqueFlags index.unique) :=
  rfl

theorem not_beginsLiteral_uniqueFlags (unique : Bool) :
    ∀ e ∈ uniqueFlags unique, ¬BeginsLiteral e.render := by
  cases unique with
  | false => exact List.forall_mem_nil _
  | true =>
    refine List.forall_mem_singleton.2 ?_
    rw [flag, Expr.render, Expr.render, BeginsLiteral]
    decide

/-- Whether there is a flag is told by what is written of it. -/
theorem uniqueFlags_inj {unique other : Bool}
    (h : commaSeparated ((uniqueFlags unique).map Expr.render) =
      commaSeparated ((uniqueFlags other).map Expr.render)) : unique = other := by
  have hempty : commaSeparated ((uniqueFlags false).map Expr.render) = "" := by
    simp [uniqueFlags, commaSeparated]
  have hflag : commaSeparated ((uniqueFlags true).map Expr.render) = "unique=True" := by
    simp [uniqueFlags, commaSeparated, flag, Expr.render, Expr.truthName]
  cases unique with
  | false =>
    cases other with
    | false => rfl
    | true => exact absurd (hempty.symm.trans (h.trans hflag)) (by decide)
  | true =>
    cases other with
    | false => exact absurd (hempty.symm.trans (h.symm.trans hflag)) (by decide)
    | true => rfl

theorem indexDeclaration_inj {index other : Index}
    (h : (indexDeclaration index).render = (indexDeclaration other).render) :
    index.name = other.name ∧ index.columns = other.columns ∧ index.unique = other.unique := by
  rw [indexDeclaration_eq, indexDeclaration_eq] at h
  obtain ⟨hnames, hflags⟩ := Expr.render_call_literals_inj
    (not_beginsLiteral_uniqueFlags index.unique) (not_beginsLiteral_uniqueFlags other.unique) h
  obtain ⟨hname, hcolumns⟩ := List.cons.inj hnames
  exact ⟨hname, hcolumns, uniqueFlags_inj hflags⟩

/-- Calls with literals that are written alike were made of the same names. -/
structure LiteralCallsInjective : Prop where
  /-- A list of quoted texts tells the texts. -/
  texts : ∀ texts others : List String,
    commaSeparated (texts.map quote) = commaSeparated (others.map quote) → texts = others
  /-- An index tells its name, its columns and whether it is unique. -/
  indexes : ∀ index other : Index,
    (indexDeclaration index).render = (indexDeclaration other).render →
      index.name = other.name ∧ index.columns = other.columns ∧ index.unique = other.unique
  /-- A uniqueness constraint tells its name and its columns. -/
  uniques : ∀ constraint other : Constraint,
    (uniqueConstraint constraint).render = (uniqueConstraint other).render →
      constraint.name = other.name ∧ constraint.columns = other.columns
  /-- So does a primary key. -/
  primaryKeys : ∀ constraint other : Constraint,
    (primaryKeyConstraint constraint).render = (primaryKeyConstraint other).render →
      constraint.name = other.name ∧ constraint.columns = other.columns
  /-- Columns whose types are written as one enumeration have the same labels and type names. -/
  enumerations : ∀ (column other : Column) (dialect otherDialect : Dialect) (arguments : String),
    (ColumnType.ofColumn column dialect).typeExpr.render = "Enum(" ++ arguments →
    (ColumnType.ofColumn other otherDialect).typeExpr.render = "Enum(" ++ arguments →
      column.labels = other.labels ∧ column.typeName = other.typeName
  /-- Columns whose types are written as one array of enumerations have the same labels and, in
  small letters, the same names of their element types. -/
  arrays : ∀ (column other : Column) (labels otherLabels : List String),
    column.labels = some labels → other.labels = some otherLabels →
    ColumnType.Postgresql.isArray column = true →
    (ColumnType.ofColumn column .postgresql).typeExpr.render =
      (ColumnType.ofColumn other .postgresql).typeExpr.render →
      labels = otherLabels ∧ ColumnType.Postgresql.isArray other = true ∧
        ColumnType.Postgresql.elementName column = ColumnType.Postgresql.elementName other

/-- The names that calls with literals were made of can be read back, whatever they hold. -/
theorem literalCalls_injective : LiteralCallsInjective := by
  have hnone : ∀ item ∈ ([] : List String), ¬BeginsLiteral item := List.forall_mem_nil _
  refine { texts := fun texts others h => ?_
           indexes := fun _ _ => indexDeclaration_inj
           uniques := fun _ _ h => (columnsConstraint_inj.1 h).symm
           primaryKeys := fun _ _ h => (columnsConstraint_inj.1 h).symm
           enumerations := fun _ _ _ _ _ => ColumnType.enumeration_of_render
           arrays := fun _ _ _ _ => ColumnType.Postgresql.labels_of_render_array }
  rw [← List.append_nil (texts.map quote), ← List.append_nil (others.map quote)] at h
  exact (commaSeparated_quote_inj hnone hnone h).1

end SchemaCodegen.Code
