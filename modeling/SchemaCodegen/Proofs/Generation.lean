import SchemaCodegen.Generation
import SchemaCodegen.Proofs.ColumnType.Cases
import SchemaCodegen.Proofs.Dependency.TableOrder

/-!
# Proofs: what hinders a generation

A generation meets a hindrance exactly when a column of the schema cannot be written: when its
arrays lie too deep inside each other, or when a number that is written of it is too long. In the
findings and in the classes such a number is the length, the precision or the scale of the column;
in a table object it may also stand in its identity.
-/

namespace SchemaCodegen

open SchemaCodegen.Code SchemaCodegen.Text

/-- A number is too long when it is out of the range of numbers with that many digits. -/
theorem Text.isLongNumber_iff {n : Int} : isLongNumber n = true ↔ 10 ^ maxDigits ≤ n.natAbs := by
  have hlength : (toString n.natAbs).length ≤ maxDigits ↔ n.natAbs < 10 ^ maxDigits :=
    Nat.length_repr_le_iff (by decide)
  rw [isLongNumber, decide_eq_true_iff, ← Nat.not_le, hlength, Nat.not_lt]

/-- The whole numbers that a style writes of a column. -/
def Style.numbersOf (style : Style) (dialect : Dialect) (column : Column) : List Int :=
  (ColumnType.ofColumn column dialect).typeExpr.numbers ++
    match style with
    | declarative => []
    | tables => ((identityDeclaration? column dialect).map Expr.numbers).getD []

/-- A column can be written in a style, and its type can be told in findings before. -/
structure Column.IsWritable (room : Room) (style : Style) (dialect : Dialect) (column : Column) :
    Prop where
  /-- There is room for the arrays of its type. -/
  depth_le : ∀ use ∈ [.finding, style.typeUse],
    (ColumnType.ofColumn column dialect).depth ≤ room.arrays use column
  /-- All numbers have few enough digits. -/
  natAbs_lt : ∀ n ∈ style.numbersOf dialect column, n.natAbs < 10 ^ maxDigits

/-- All columns of a schema can be written. -/
def Schema.IsWritable (room : Room) (style : Style) (schema : Schema) : Prop :=
  ∀ table ∈ schema.tables, ∀ column ∈ table.columns,
    column.IsWritable room style schema.dialect

/-! ## One column -/

variable {room : Room} {style : Style} {dialect : Dialect} {column : Column}

variable {schema : Schema}

theorem Style.mem_tablesInOrder {table : Table} :
    table ∈ style.tablesInOrder schema ↔ table ∈ schema.tables := by
  cases style with
  | declarative => rfl
  | tables => exact (Dependency.sortTables_perm schema.tables).mem_iff

/-- What a hindrance says of a column. -/
def Hindrance.Concerns (room : Room) (style : Style) (dialect : Dialect) (column : Column) :
    Hindrance → Prop
  | longNumber => ∃ n ∈ style.numbersOf dialect column, 10 ^ maxDigits ≤ n.natAbs
  | deepArray => ∃ use ∈ [.finding, style.typeUse],
      room.arrays use column < (ColumnType.ofColumn column dialect).depth

theorem concerns_of_typeHindrance? {use : TypeUse} (huse : use ∈ [.finding, style.typeUse])
    {hindrance : Hindrance} (h : typeHindrance? room use dialect column = some hindrance) :
    hindrance.Concerns room style dialect column := by
  rw [typeHindrance?] at h
  split at h
  · next hdeep =>
    obtain rfl := Option.some.inj h
    exact ⟨use, huse, hdeep⟩
  · split at h
    · next hlong =>
      obtain rfl := Option.some.inj h
      obtain ⟨n, hn, hlong⟩ := List.any_eq_true.1 hlong
      exact ⟨n, List.mem_append_left _ hn, isLongNumber_iff.1 hlong⟩
    · cases h

theorem concerns_of_columnHindrance? {hindrance : Hindrance}
    (h : columnHindrance? room style dialect column = some hindrance) :
    hindrance.Concerns room style dialect column := by
  unfold columnHindrance? at h
  rcases Option.or_eq_some_iff.1 h with htype | ⟨_, hidentity⟩
  · exact concerns_of_typeHindrance? (by simp) htype
  · cases style with
    | declarative => cases hidentity
    | tables =>
      dsimp only at hidentity
      rw [identityHindrance?] at hidentity
      split at hidentity
      · next hlong =>
        obtain rfl := Option.some.inj hidentity
        obtain ⟨e, he, hlong⟩ := (Option.any_eq_true _ _).1 hlong
        obtain ⟨n, hn, hlong⟩ := List.any_eq_true.1 hlong
        refine ⟨n, List.mem_append_right _ ?_, isLongNumber_iff.1 hlong⟩
        rw [he]
        exact hn
      · cases hidentity

/-- A hindrance is met at a column that it concerns. -/
theorem exists_concerns_of_hindrance? {hindrance : Hindrance}
    (h : hindrance? room style schema = some hindrance) :
    ∃ table ∈ schema.tables, ∃ column ∈ table.columns,
      hindrance.Concerns room style schema.dialect column := by
  rcases Option.or_eq_some_iff.1 h with haudit | ⟨_, hwriting⟩
  · obtain ⟨column, hcolumn, hfound⟩ := List.exists_of_findSome?_eq_some haudit
    obtain ⟨table, htable, hcolumn⟩ := List.mem_flatMap.1 hcolumn
    exact ⟨table, htable, column, hcolumn,
      concerns_of_typeHindrance? List.mem_cons_self hfound⟩
  · obtain ⟨column, hcolumn, hfound⟩ := List.exists_of_findSome?_eq_some hwriting
    obtain ⟨table, htable, hcolumn⟩ := List.mem_flatMap.1 hcolumn
    exact ⟨table, Style.mem_tablesInOrder.1 htable, column, hcolumn,
      concerns_of_columnHindrance? hfound⟩

/-! ## Where long numbers come from -/

/-- The numbers in what a type is always given. -/
def TypeArguments.fixedNumbers : TypeArguments → List Int
  | .fixed argument => argument.numbers
  | _ => []

namespace ColumnType

/-- The numbers among the arguments of a type are sizes of the column, or in what the type is always
given. -/
theorem mem_sizes_or_mem_fixedNumbers {arguments : TypeArguments} {n : Int}
    (h : n ∈ Expr.numbersOfAll (TypeRow.argumentsFor column arguments)) :
    some n ∈ [column.length, column.precision, column.scale] ∨ n ∈ arguments.fixedNumbers := by
  cases arguments with
  | bare => cases h
  | fixed argument =>
    right
    simpa [TypeRow.argumentsFor, Expr.numbersOfAll, TypeArguments.fixedNumbers] using h
  | length =>
    rw [TypeRow.argumentsFor] at h
    split at h
    · next size hsize =>
      split at h
      · obtain rfl : n = size := by simpa [Expr.numbersOfAll, Expr.numbers] using h
        exact .inl (by simp [hsize])
      · cases h
    · cases h
  | numeric =>
    rw [TypeRow.argumentsFor] at h
    split at h
    · next precision scale hprecision hscale =>
      have hn : n = precision ∨ n = scale := by simpa [Expr.numbersOfAll, Expr.numbers] using h
      exact .inl (by simpa [hprecision, hscale] using .inr hn)
    · next precision hprecision hscale =>
      obtain rfl : n = precision := by simpa [Expr.numbersOfAll, Expr.numbers] using h
      exact .inl (by simp [hprecision])
    · cases h

theorem numbers_applied (type : Symbol) (args : List Expr) :
    (applied type args).numbers = Expr.numbersOfAll args := by
  cases args <;> rfl

theorem numbers_enumeration (labels : List String) (name : String) :
    (enumeration labels name).typeExpr.numbers = [] := by
  have hlabels : Expr.numbersOfAll (Expr.literals labels ++ [Vocabulary.named name]) = [] := by
    induction labels with
    | nil => rfl
    | cons label labels ih => exact ih
  exact hlabels

/-- A number in the type of a column that is too long to be written is the length, the precision or
the scale of the column. -/
theorem mem_sizes_of_mem_numbers {n : Int} (hlong : 10 ^ maxDigits ≤ n.natAbs)
    (hn : n ∈ (ofColumn column dialect).typeExpr.numbers) :
    some n ∈ [column.length, column.precision, column.scale] := by
  have hfixed : ∀ row ∈ rowsOf dialect, row.arguments.fixedNumbers ⊆ [53] := by
    cases dialect <;> decide
  have hfew : 53 < 10 ^ maxDigits :=
    Nat.lt_of_lt_of_le (by decide) (Nat.pow_le_pow_right (by decide) (by decide : 2 ≤ maxDigits))
  refine ofColumn_cases (motive := fun type => n ∈ type.typeExpr.numbers →
    some n ∈ [column.length, column.precision, column.scale]) ?_ ?_ ?_ ?_ hn
  · intro row hrow hn
    rw [TypeRow.typeFor, typeExpr, numbers_applied] at hn
    rcases mem_sizes_or_mem_fixedNumbers hn with hsize | hn
    · exact hsize
    · obtain rfl := List.mem_singleton.1 (hfixed row hrow hn)
      exact absurd hfew (Nat.not_lt.2 hlong)
  · intro labels name hn
    rw [numbers_enumeration] at hn
    cases hn
  · intro element ih hn
    rw [typeExpr, Expr.numbers, Expr.numbersOfAll, Expr.numbersOfAll, List.append_nil] at hn
    exact ih hn
  · nofun

end ColumnType

end SchemaCodegen
