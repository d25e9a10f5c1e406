import SchemaCodegen.Proofs.Code.LiteralCalls
import SchemaCodegen.Proofs.ColumnType.Cases

/-!
# Proofs: enumerations in generated code

The expression of an enumeration tells its labels and its name. So columns of enumerations that are
given one expression have the same labels and type names; arrays of enumerations have the same
labels and, in small letters, the same names of their element types.
-/

namespace SchemaCodegen.ColumnType

open SchemaCodegen.Code SchemaCodegen.Code.Vocabulary SchemaCodegen.Text

/-! ## Expressions of enumerations and arrays -/

theorem render_enumeration_inj {labels otherLabels : List String} {name other : String} :
    (enumeration labels name).typeExpr.render = (enumeration otherLabels other).typeExpr.render ↔
      labels = otherLabels ∧ name = other :=
  Expr.render_call_named_inj

theorem render_array (element : ColumnType) :
    (array element).typeExpr.render = "ARRAY(" ++ element.typeExpr.render ++ ")" := by
  rw [typeExpr, Expr.render_call, List.map_singleton, commaSeparated,
    String.intercalate_singleton]
  rfl

theorem render_array_inj {element other : ColumnType} :
    (array element).typeExpr.render = (array other).typeExpr.render ↔
      element.typeExpr.render = other.typeExpr.render := by
  rw [render_array, render_array, String.append_left_inj, String.append_right_inj]

/-! ## How expressions begin -/

/-- A type whose expression begins as that of an enumeration. -/
def BeginsEnumeration (type : ColumnType) : Prop :=
  type.typeExpr.render.toList.head? = some 'E'

theorem beginsEnumeration_of_render {type : ColumnType} {arguments : String}
    (h : type.typeExpr.render = "Enum(" ++ arguments) : BeginsEnumeration type := by
  rw [BeginsEnumeration, h, String.toList_append]
  rfl

theorem beginsEnumeration_enumeration (labels : List String) (name : String) :
    BeginsEnumeration (enumeration labels name) := by
  rw [BeginsEnumeration, typeExpr, Expr.render_call, String.append_assoc, String.append_assoc,
    String.toList_append]
  rfl

theorem not_beginsEnumeration_array (element : ColumnType) :
    ¬BeginsEnumeration (array element) := by
  rw [BeginsEnumeration, render_array, String.append_assoc, String.toList_append]
  simp

theorem not_beginsEnumeration_unmapped : ¬BeginsEnumeration unmapped := by
  rw [BeginsEnumeration, typeExpr, Expr.render]
  decide

/-- The expression of a type with arguments begins with the type. -/
theorem exists_render_applied (type : Symbol) (args : List Expr) :
    ∃ rest, (applied type args).render = type.render ++ rest := by
  fun_cases applied type args with
  | case1 => exact ⟨"", by rw [Expr.render, String.append_empty]⟩
  | case2 => exact ⟨_, by rw [Expr.render_call, String.append_assoc, String.append_assoc]⟩

/-- No known type has a name that begins as that of enumerations. -/
theorem not_beginsEnumeration_typeFor (dialect : Dialect) {row : TypeRow}
    (h : row ∈ rowsOf dialect) (column : Column) : ¬BeginsEnumeration (row.typeFor column) := by
  have hrows : (rowsOf dialect).all (fun row => row.name.toList.head?.any (· != 'E')) = true := by
    cases dialect <;> rfl
  obtain ⟨c, hhead, hne⟩ := (Option.any_eq_true ..).1 (List.all_eq_true.1 hrows row h)
  obtain ⟨rest, hrender⟩ :=
    exists_render_applied row.symbol (TypeRow.argumentsFor column row.arguments)
  have hname : row.symbol.render = row.name := rfl
  rw [BeginsEnumeration, TypeRow.typeFor, typeExpr, hrender, hname, String.toList_append,
    List.head?_append, hhead]
  simpa using hne

/-! ## Columns of enumerations -/

/-- A column whose type is written as an enumeration has labels, and the enumeration has these and
the column's type name. -/
theorem ofColumn_of_beginsEnumeration {column : Column} {dialect : Dialect}
    (h : BeginsEnumeration (ofColumn column dialect)) :
    ∃ labels, column.labels = some labels ∧
      ofColumn column dialect = enumeration labels column.typeName := by
  cases dialect with
  | postgresql =>
    change BeginsEnumeration (Postgresql.ofColumn column) at h
    change ∃ labels, _ ∧ Postgresql.ofColumn column = _
    unfold Postgresql.ofColumn at h ⊢
    split at h
    · exact absurd h (not_beginsEnumeration_array _)
    · next hplain =>
      rw [if_neg hplain]
      unfold Postgresql.plainType at h ⊢
      split at h
      · next labels hlabels => exact ⟨labels, hlabels, rfl⟩
      · split at h
        · next row hrow =>
          have hknown := Postgresql.mem_of_row? hrow
          exact absurd h (not_beginsEnumeration_typeFor .postgresql hknown column)
        · exact absurd h not_beginsEnumeration_unmapped
  | mssql =>
    change BeginsEnumeration (SqlServer.ofColumn column) at h
    unfold SqlServer.ofColumn at h
    split at h
    · next row hrow =>
      have hknown := SqlServer.mem_of_row? hrow
      exact absurd h (not_beginsEnumeration_typeFor .mssql hknown column)
    · exact absurd h not_beginsEnumeration_unmapped

/-- Columns whose types are written as one enumeration have the same labels and type names. -/
theorem enumeration_of_render {column other : Column} {dialect otherDialect : Dialect}
    {arguments : String}
    (hcolumn : (ofColumn column dialect).typeExpr.render = "Enum(" ++ arguments)
    (hother : (ofColumn other otherDialect).typeExpr.render = "Enum(" ++ arguments) :
    column.labels = other.labels ∧ column.typeName = other.typeName := by
  obtain ⟨labels, hlabels, htype⟩ :=
    ofColumn_of_beginsEnumeration (beginsEnumeration_of_render hcolumn)
  obtain ⟨otherLabels, hotherLabels, hotherType⟩ :=
    ofColumn_of_beginsEnumeration (beginsEnumeration_of_render hother)
  have hrender := hcolumn.trans hother.symm
  rw [htype, hotherType, render_enumeration_inj] at hrender
  exact ⟨by rw [hlabels, hotherLabels, hrender.1], hrender.2⟩

/-! ## Arrays of enumerations -/

theorem render_array_ne_enumeration (element : ColumnType) (labels : List String) (name : String) :
    (array element).typeExpr.render ≠ (enumeration labels name).typeExpr.render := by
  intro h
  have hbegins := beginsEnumeration_enumeration labels name
  rw [BeginsEnumeration, ← h] at hbegins
  exact not_beginsEnumeration_array element hbegins

namespace Postgresql

/-- The type name of the elements of an array, in small letters. -/
def elementName (column : Column) : List Char :=
  dropUnderscore (lowerAfter false column.typeName.toList)

section Labels

variable {column other : Column} {labels otherLabels : List String}
  (hlabels : column.labels = some labels) (hother : other.labels = some otherLabels)

include hlabels

theorem elementType_of_labels {cs : List Char} (h : cs.head? ≠ some '_') :
    elementType column cs = .enumeration labels (String.ofList cs) := by
  rw [elementType_eq h, plainType, hlabels]

theorem ofColumn_of_labels (h : isArray column = false) :
    ofColumn column = .enumeration labels column.typeName := by
  rw [ofColumn, if_neg (by simp [h]), plainType, hlabels]

include hother

/-- An enumeration tells its labels and its name among all types of elements. -/
theorem elementType_inj_of_head {cs ds : List Char} (hcs : cs.head? ≠ some '_')
    (h : (elementType column cs).typeExpr.render = (elementType other ds).typeExpr.render) :
    labels = otherLabels ∧ cs = ds := by
  rw [elementType_of_labels hlabels hcs] at h
  by_cases hds : ds.head? = some '_'
  · obtain ⟨rest, rfl⟩ := List.head?_eq_some_iff.1 hds
    exact absurd h.symm (render_array_ne_enumeration _ _ _)
  · rw [elementType_of_labels hother hds, render_enumeration_inj] at h
    exact ⟨h.1, String.ofList_inj.1 h.2⟩

/-- The types of elements tell the labels and the names that they stand for. -/
theorem elementType_inj {cs ds : List Char}
    (h : (elementType column cs).typeExpr.render = (elementType other ds).typeExpr.render) :
    labels = otherLabels ∧ cs = ds := by
  induction cs generalizing ds with
  | nil => exact elementType_inj_of_head hlabels hother (by simp) h
  | cons c cs ih =>
    by_cases hc : c = '_'
    · subst hc
      by_cases hds : ds.head? = some '_'
      · obtain ⟨ds, rfl⟩ := List.head?_eq_some_iff.1 hds
        obtain ⟨hsame, rfl⟩ := ih (render_array_inj.1 h)
        exact ⟨hsame, rfl⟩
      · rw [elementType_of_labels hother hds] at h
        exact absurd h (render_array_ne_enumeration _ _ _)
    · exact elementType_inj_of_head hlabels hother (by simpa using hc) h

/-- A column that is written as an array of enumerations is one, and their labels and, in small
letters, their names are the same. -/
theorem labels_of_render_array (harray : isArray column = true)
    (h : (ofColumn column).typeExpr.render = (ofColumn other).typeExpr.render) :
    labels = otherLabels ∧ isArray other = true ∧ elementName column = elementName other := by
  rw [ofColumn, if_pos harray] at h
  cases hplain : isArray other with
  | true =>
    rw [ofColumn, if_pos hplain, render_array_inj] at h
    obtain ⟨hsame, hname⟩ := elementType_inj hlabels hother h
    exact ⟨hsame, rfl, hname⟩
  | false =>
    rw [ofColumn_of_labels hother hplain] at h
    exact absurd h (render_array_ne_enumeration _ _ _)

end Labels

end Postgresql

end SchemaCodegen.ColumnType
