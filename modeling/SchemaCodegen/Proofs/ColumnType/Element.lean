import SchemaCodegen.Proofs.Code.Symbols
import SchemaCodegen.Proofs.ColumnType.Enumeration
import SchemaCodegen.Proofs.Text.SmallForm

/-!
# Proofs: the elements of an array

The elements of a PostgreSQL array have the type that a column of their own would have. Types are
looked up in small letters, so it makes no difference to the lookup that the name of the element
type is taken from the small form of the array's name. It makes one to enumerations, which carry
their name in the spelling that they get: the elements' one is written in small letters.
-/

namespace SchemaCodegen

open SchemaCodegen.Code SchemaCodegen.Code.Vocabulary SchemaCodegen.Text

/-! ## Columns and arrays of their values -/

/-- The column whose values are arrays of the column's values. -/
def Column.asArray (column : Column) : Column :=
  { column with typeName := "_" ++ column.typeName, dataType := "ARRAY" }

/-- The column with nothing but a name for its type. -/
def Column.undescribed (column : Column) : Column :=
  { column with dataType := "" }

namespace ColumnType

/-- Two types that differ in the arguments of their expressions only. -/
structure SharesKind (type other : ColumnType) : Prop where
  /-- The annotation is the same. -/
  hint : type.hint = other.hint
  /-- The expression mentions the same symbols, so it needs the same imports. -/
  symbols : type.typeExpr.symbols = other.typeExpr.symbols
  /-- The parts have the same type. -/
  element : type.element? = other.element?
  /-- Both are known or both are not. -/
  isFallback : type.isFallback = other.isFallback

theorem SharesKind.refl (type : ColumnType) : type.SharesKind type :=
  ⟨rfl, rfl, rfl, rfl⟩

theorem sharesKind_enumeration (labels : List String) (name other : String) :
    (enumeration labels name).SharesKind (enumeration labels other) :=
  ⟨rfl, by rw [symbols_enumeration, symbols_enumeration], rfl, rfl⟩

end ColumnType

/-! ## Types by their names -/

namespace ColumnType.Postgresql

variable {column : Column}

/-- A type that is looked up by its small form is found as by its own spelling. -/
theorem row?_lower (typeName dataType : String) :
    row? (lower typeName) dataType = row? typeName dataType := by
  unfold row?
  rw [lower_lower]

/-- No other character becomes an underscore when a text is made small. -/
theorem head?_lowerAfter_ne {cs : List Char} (h : cs.head? ≠ some '_') :
    (lowerAfter false cs).head? ≠ some '_' := by
  intro hhead
  have hprefix : ['_'] <+: lowerAfter false cs := by
    obtain ⟨rest, hrest⟩ := List.head?_eq_some_iff.1 hhead
    exact ⟨rest, hrest.symm⟩
  rw [isPrefix_lowerAfter_iff (List.forall_mem_singleton.2 rfl)] at hprefix
  obtain ⟨front, rest, rfl, hmap⟩ := hprefix
  obtain ⟨c, tail, rfl, hc, _⟩ := List.map_eq_cons_iff.1 hmap
  obtain rfl := eq_of_toLower_eq hc rfl
  exact h rfl

/-- Of the column itself only its labels and sizes are asked, apart from the names that are given. -/
theorem plainType_retyped (column : Column) (name description : String) :
    plainType { column with typeName := name, dataType := description } = plainType column := by
  funext typeName dataType
  simp only [plainType, TypeRow.typeFor, TypeRow.argumentsFor]

/-- The elements of an array have the type that the small form of their type name stands for. -/
theorem ofColumn_asArray (h : isArray column = false) :
    ofColumn column.asArray = .array (plainType column (lower column.typeName) "") := by
  have hhead : column.typeName.toList.head? ≠ some '_' := by
    intro hhead
    simp [isArray, hhead] at h
  have hsmall : dropUnderscore (lowerAfter false column.asArray.typeName.toList) =
      lowerAfter false column.typeName.toList := by
    have hname : column.asArray.typeName.toList = '_' :: column.typeName.toList := by
      simp [Column.asArray]
    rw [hname, lowerAfter_cons_of_lt (by decide)]
    rfl
  have harray : isArray column.asArray = true := by
    have hword : upper "ARRAY" = "ARRAY" := by decide +kernel
    simp [isArray, Column.asArray, hword]
  have hsame : plainType column.asArray = plainType column := plainType_retyped column _ _
  rw [ofColumn, if_pos harray, hsmall, elementType_eq (head?_lowerAfter_ne hhead), ← lower, hsame]

/-- The empty description is not that of an array. -/
theorem upper_empty_ne : upper "" ≠ "ARRAY" := by
  decide +kernel

theorem ofColumn_undescribed (h : isArray column = false) :
    ofColumn column.undescribed = plainType column column.typeName "" := by
  have hplain : isArray column.undescribed = false := by
    simp only [isArray, Bool.or_eq_false_iff] at h ⊢
    exact ⟨by simpa [Column.undescribed] using upper_empty_ne, h.2⟩
  have hsame : plainType column.undescribed = plainType column := plainType_retyped column _ _
  rw [ofColumn, hplain, if_neg Bool.false_ne_true, hsame]
  rfl

theorem plainType_lower (column : Column) (typeName dataType : String) :
    (plainType column (lower typeName) dataType).SharesKind
        (plainType column typeName dataType) ∧
      ((plainType column (lower typeName) dataType).typeExpr.render =
          (plainType column typeName dataType).typeExpr.render ↔
        column.labels = none ∨ lower typeName = typeName) := by
  unfold plainType
  cases hlabels : column.labels with
  | none =>
    simp only [row?_lower]
    exact ⟨SharesKind.refl _, by simp⟩
  | some labels => exact ⟨sharesKind_enumeration .., by simp [render_enumeration_inj]⟩

end ColumnType.Postgresql

/-- The elements of an array have the type that the column would have without its description, but
for the spelling of an enumeration's name: the two are written alike exactly if the column is no
enumeration, or its type name is in small letters. -/
theorem ColumnType.element_asArray {column : Column} (h : Postgresql.isArray column = false) :
    ∃ element, ofColumn column.asArray .postgresql = .array element ∧
      element.SharesKind (ofColumn column.undescribed .postgresql) ∧
      (element.typeExpr.render = (ofColumn column.undescribed .postgresql).typeExpr.render ↔
        column.labels = none ∨ lower column.typeName = column.typeName) := by
  refine ⟨_, Postgresql.ofColumn_asArray h, ?_⟩
  show SharesKind _ (Postgresql.ofColumn column.undescribed) ∧
    (_ = (Postgresql.ofColumn column.undescribed).typeExpr.render ↔ _)
  rw [Postgresql.ofColumn_undescribed h]
  exact Postgresql.plainType_lower column column.typeName ""

/-- A column with a bounded text in the spelling of its own. -/
def tagColumn : Column :=
  { name := "tag", position := 1, typeName := "VarChar", length := some 30,
    dataType := "character varying" }

/-- The elements of an array of such texts are written as the texts are. -/
theorem element_asArray_tag :
    ColumnType.Postgresql.isArray tagColumn = false ∧
      ∃ element, ColumnType.ofColumn tagColumn.asArray .postgresql = .array element ∧
        element.typeExpr.render = "String(30)" := by
  have hplain : ColumnType.Postgresql.isArray tagColumn = false := by decide +kernel
  obtain ⟨element, harray, _, hrender⟩ := ColumnType.element_asArray hplain
  refine ⟨hplain, element, harray, ?_⟩
  rw [hrender.2 (Or.inl rfl)]
  decide +kernel

/-- A column of an enumeration whose name has a capital. -/
def moodColumn : Column :=
  { name := "mood", position := 1, typeName := "Mood", dataType := "USER-DEFINED",
    labels := some ["sad", "ok"] }

/-- The elements of an array of the enumeration are one of another name. -/
theorem render_element_mood :
    ColumnType.Postgresql.isArray moodColumn = false ∧
      (ColumnType.ofColumn moodColumn.asArray .postgresql).element?.map (·.typeExpr.render) =
        some "Enum('sad', 'ok', name='mood')" ∧
      (ColumnType.ofColumn moodColumn.undescribed .postgresql).typeExpr.render =
        "Enum('sad', 'ok', name='Mood')" := by
  decide +kernel

end SchemaCodegen
