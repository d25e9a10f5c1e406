import SchemaCodegen.ColumnType

/-!
# Proofs: the cases of a column's type

A column has the type that a row of its dialect gives it, an enumeration, an array of such a type,
or the unknown type. What holds in these cases holds of the type of every column.
-/

namespace SchemaCodegen

theorem TypeRow.mem_of_find? {rows : List TypeRow} {key : String} {row : TypeRow}
    (h : TypeRow.find? rows key = some row) : row ∈ rows :=
  List.mem_of_find?_eq_some h

namespace ColumnType

/-- The known types of a dialect. -/
def rowsOf : Dialect → List TypeRow
  | .postgresql => Postgresql.rows
  | .mssql => SqlServer.rows

theorem Postgresql.mem_of_row? {typeName dataType : String} {row : TypeRow}
    (h : row? typeName dataType = some row) : row ∈ rows := by
  unfold row? at h
  split at h
  · next found hfound => exact Option.some.inj h ▸ TypeRow.mem_of_find? hfound
  · obtain ⟨key, _, hfound⟩ := Option.bind_eq_some_iff.1 h
    exact TypeRow.mem_of_find? hfound

theorem SqlServer.mem_of_row? {typeName dataType : String} {row : TypeRow}
    (h : row? typeName dataType = some row) : row ∈ rows := by
  unfold row? at h
  split at h
  · next found hfound => exact Option.some.inj h ▸ TypeRow.mem_of_find? hfound
  · exact TypeRow.mem_of_find? h

variable {motive : ColumnType → Prop} {column : Column}

theorem Postgresql.plainType_cases (hrow : ∀ row ∈ rows, motive (row.typeFor column))
    (henumeration : ∀ labels name, motive (.enumeration labels name))
    (hunmapped : motive .unmapped) (typeName dataType : String) :
    motive (plainType column typeName dataType) := by
  unfold plainType
  split
  · exact henumeration _ _
  · split
    · next row hfound => exact hrow row (mem_of_row? hfound)
    · exact hunmapped

theorem Postgresql.elementType_cases (hrow : ∀ row ∈ rows, motive (row.typeFor column))
    (henumeration : ∀ labels name, motive (.enumeration labels name))
    (harray : ∀ element, motive element → motive (.array element))
    (hunmapped : motive .unmapped) (name : List Char) : motive (elementType column name) := by
  have hplain := plainType_cases hrow henumeration hunmapped
  induction name with
  | nil => exact hplain "" ""
  | cons c rest ih =>
    unfold elementType
    split
    · exact harray _ ih
    · exact hplain _ _

/-- A type that is no array is found by its name. -/
theorem Postgresql.elementType_eq {cs : List Char} (h : cs.head? ≠ some '_') :
    elementType column cs = plainType column (String.ofList cs) "" := by
  cases cs with
  | nil => rfl
  | cons c cs => rw [elementType, if_neg (by simpa using h)]

/-- What the cases of types have, the type of every column has. -/
theorem ofColumn_cases {dialect : Dialect}
    (hrow : ∀ row ∈ rowsOf dialect, motive (row.typeFor column))
    (henumeration : ∀ labels name, motive (.enumeration labels name))
    (harray : ∀ element, motive element → motive (.array element))
    (hunmapped : motive .unmapped) : motive (ofColumn column dialect) := by
  cases dialect with
  | postgresql =>
    show motive (Postgresql.ofColumn column)
    unfold Postgresql.ofColumn
    split
    · exact harray _ (Postgresql.elementType_cases hrow henumeration harray hunmapped _)
    · exact Postgresql.plainType_cases hrow henumeration hunmapped _ _
  | mssql =>
    show motive (SqlServer.ofColumn column)
    unfold SqlServer.ofColumn
    split
    · next row hfound => exact hrow row (SqlServer.mem_of_row? hfound)
    · exact hunmapped

end ColumnType

end SchemaCodegen
