import Mathlib.Logic.Function.Iterate
import SchemaCodegen.Proofs.Audit.UnknownTypes
import SchemaCodegen.Proofs.ColumnType.Element

/-!
# Proofs: layers of arrays

The type of a PostgreSQL column is found by a recursion: the elements of an array are mapped as a
column of their own, whose type name has one underscore less and whose description is empty. The
recursion takes one step for each underscore in front of the type name, and one if there is none but
the description says that the column is an array; then it meets a column that is no array. Its type
is written inside as many layers, whose imports stand before its own. In either dialect the names
that a type expression mentions are those that are imported for it.
-/

namespace SchemaCodegen

open SchemaCodegen.Code SchemaCodegen.Code.Vocabulary SchemaCodegen.Text

/-! ## Imports and names of a type expression -/

/-- A name that stands for a type: not the name of an argument, no number and no truth value. -/
def Code.Use.isTypeName (use : Use) : Bool :=
  !(use.isArgument && use.text == "name") && !use.isNumber && use.text != "True"

/-- The type names that a text mentions outside literals, in the order of their writing. -/
def Code.typeNames (text : String) : List String :=
  ((usesOf text.toList).filter Use.isTypeName).map Use.text

example : typeNames "ARRAY(Enum('Sad', name='Mood'))" = ["ARRAY", "Enum"] := by decide +kernel

/-- Whether what a type is always given, if anything, is a number or the positive truth value. -/
def TypeArguments.isNameless : TypeArguments → Bool
  | .fixed (.number _) => true
  | .fixed (.truth value) => value
  | .fixed _ => false
  | .bare => true
  | .length => true
  | .numeric => true

/-- The digits of a number are no type name. -/
theorem Code.isTypeName_of_mem_number {n : Nat} {use : Use} (h : use ∈ nameUses (toString n)) :
    use.isTypeName = false := by
  rw [Use.isTypeName, isNumber_of_mem_nameUses h, Bool.not_true, Bool.and_false, Bool.false_and]

/-- The arguments of a type mention no type. -/
theorem TypeRow.isTypeName_argumentsFor {arguments : TypeArguments}
    (h : arguments.isNameless = true) (column : Column) :
    ∀ use ∈ Expr.usesOfAll (argumentsFor column arguments), use.isTypeName = false := by
  have hnumber : ∀ value : Int, ∀ use ∈ Expr.usesOfAll [.number value],
      use.isTypeName = false := by
    intro value use huse
    rw [Expr.usesOfAll, Expr.usesOfAll, Expr.uses, List.append_nil] at huse
    exact isTypeName_of_mem_number huse
  cases arguments with
  | bare => exact List.forall_mem_nil _
  | fixed argument =>
    cases argument with
    | number value => exact hnumber value
    | truth value =>
      obtain rfl : value = true := h
      have htrue : Expr.usesOfAll [.truth true] = nameUses "True" := rfl
      rw [argumentsFor, htrue]
      decide
    | _ => cases h
  | length =>
    rw [argumentsFor]
    split
    · split
      · exact hnumber _
      · exact List.forall_mem_nil _
    · exact List.forall_mem_nil _
  | numeric =>
    rw [argumentsFor]
    split
    · next precision scale _ _ =>
      intro use huse
      rw [Expr.usesOfAll, Expr.uses, List.mem_append] at huse
      exact huse.elim isTypeName_of_mem_number (hnumber scale use)
    · exact hnumber _
    · exact List.forall_mem_nil _

namespace ColumnType

/-- The type names that the expression of a type uses are those that are imported for it, and all of
them are known. -/
structure NamesImports (type : ColumnType) : Prop where
  /-- The names are the imported ones. -/
  names : (type.typeExpr.uses.filter Use.isTypeName).map Use.text = type.imports.map Prod.snd
  /-- The names are known. -/
  known : ∀ pair ∈ type.imports, pair.2 ∈ symbolNames

theorem namesImports_typeFor {dialect : Dialect} {row : TypeRow} (hrow : row ∈ rowsOf dialect)
    (column : Column) : (row.typeFor column).NamesImports := by
  have hrows : ∀ row ∈ rowsOf dialect, row.arguments.isNameless = true ∧
      (Use.isTypeName ⟨row.name.toList, false, false⟩ = true ∧ row.name ∈ symbolNames) := by
    cases dialect <;> decide +kernel
  obtain ⟨hnameless, hname, hknown⟩ := hrows row hrow
  have himports : (row.typeFor column).imports = [(row.module, row.name)] := by
    rw [imports, symbols_typeFor hrow]
    rfl
  have huses : (row.typeFor column).typeExpr.uses = ⟨row.name.toList, false, false⟩ ::
      Expr.usesOfAll (TypeRow.argumentsFor column row.arguments) := by
    unfold TypeRow.typeFor typeExpr
    cases TypeRow.argumentsFor column row.arguments with
    | nil => rfl
    | cons arg args => rfl
  constructor
  · have hargs := List.filter_eq_nil_iff.2 fun use huse =>
      Bool.eq_false_iff.1 (TypeRow.isTypeName_argumentsFor hnameless column use huse)
    rw [himports, huses, List.filter_cons_of_pos hname, hargs]
    simp [Use.text]
  · rw [himports]
    exact List.forall_mem_singleton.2 hknown

theorem namesImports_enumeration (labels : List String) (name : String) :
    (enumeration labels name).NamesImports := by
  have himports : (enumeration labels name).imports = [("sqlalchemy", "Enum")] := by
    rw [imports, symbols_enumeration]
    rfl
  have hlabels : Expr.usesOfAll (Expr.literals labels ++ [named name]) =
      [⟨"name".toList, false, true⟩] := by
    have hliterals : (Expr.literals labels).flatMap Expr.uses = [] :=
      List.flatMap_eq_nil_iff.2 (List.forall_mem_map.2 fun _ _ => rfl)
    rw [Expr.usesOfAll_eq, ← List.flatMap_def, List.flatMap_append, hliterals]
    rfl
  constructor
  · rw [himports, typeExpr, Expr.uses, hlabels]
    decide
  · rw [himports]
    decide

theorem imports_array (element : ColumnType) :
    (array element).imports =
      ("sqlalchemy.dialects.postgresql", "ARRAY") :: element.imports := by
  rw [imports, symbols_array]
  rfl

theorem NamesImports.array {element : ColumnType} (h : element.NamesImports) :
    (array element).NamesImports := by
  have huses : (ColumnType.array element).typeExpr.uses =
      ⟨"ARRAY".toList, false, false⟩ :: element.typeExpr.uses := by
    rw [typeExpr, Expr.uses, Expr.usesOfAll, Expr.usesOfAll, List.append_nil]
    rfl
  constructor
  · rw [imports_array, huses, List.filter_cons_of_pos (by decide), List.map_cons, List.map_cons,
      h.names]
    rfl
  · rw [imports_array]
    exact List.forall_mem_cons.2 ⟨by decide, h.known⟩

/-- The types of columns mention what is imported for them. -/
theorem namesImports_ofColumn (column : Column) (dialect : Dialect) :
    (ofColumn column dialect).NamesImports :=
  ofColumn_cases (fun _ hrow => namesImports_typeFor hrow column) namesImports_enumeration
    (fun _ h => h.array) ⟨by decide, by decide⟩

/-! ## Layers -/

/-- The type with several layers of arrays around it. -/
def arrays : Nat → ColumnType → ColumnType
  | 0, base => base
  | depth + 1, base => .array (arrays depth base)

/-- A text inside several layers, each with the same front and the same back. -/
def layered (front back : String) : Nat → String → String
  | 0, text => text
  | depth + 1, text => front ++ layered front back depth text ++ back

/-- A type that is written inside layers of arrays around a base that is no array. -/
structure IsLayered (depth : Nat) (base type : ColumnType) : Prop where
  /-- The type is made of layers around the base. -/
  arrays : type = arrays depth base
  /-- The base is no array. -/
  plain : ∀ element, base ≠ array element
  /-- The type expression is that of the base in layers. -/
  typeExpr : type.typeExpr.render = layered "ARRAY(" ")" depth base.typeExpr.render
  /-- The annotation is that of the base in layers. -/
  hint : type.hint.render = layered "list[" "]" depth base.hint.render
  /-- Each layer needs one import, before those of the base. -/
  imports : type.imports =
    List.replicate depth ("sqlalchemy.dialects.postgresql", "ARRAY") ++ base.imports
  /-- The type is a fallback exactly if the base is written as the type for unknown ones. -/
  isFallback : type.isFallback = true ↔ base.typeExpr.render = "NullType"

theorem render_arrays (depth : Nat) (base : ColumnType) :
    (arrays depth base).typeExpr.render = layered "ARRAY(" ")" depth base.typeExpr.render := by
  induction depth with
  | zero => rfl
  | succ depth ih => rw [arrays, render_array, ih, layered]

theorem render_hint_arrays (depth : Nat) (base : ColumnType) :
    (arrays depth base).hint.render = layered "list[" "]" depth base.hint.render := by
  induction depth with
  | zero => rfl
  | succ depth ih =>
    rw [arrays, ColumnType.hint, Expr.render, ih, layered]
    rfl

theorem imports_arrays (depth : Nat) (base : ColumnType) :
    (arrays depth base).imports =
      List.replicate depth ("sqlalchemy.dialects.postgresql", "ARRAY") ++ base.imports := by
  induction depth with
  | zero => rfl
  | succ depth ih => rw [arrays, imports_array, ih, List.replicate_succ, List.cons_append]

theorem isFallback_arrays (depth : Nat) (base : ColumnType) :
    (arrays depth base).isFallback = base.isFallback := by
  induction depth with
  | zero => rfl
  | succ depth ih => rw [arrays, ColumnType.isFallback, ih]

namespace Postgresql

/-! ## The recursion -/

/-- The elements of an array as a column of their own. -/
def elementColumn (column : Column) : Column :=
  { column with
    typeName := String.ofList (dropUnderscore (lower column.typeName).toList)
    dataType := "" }

/-- The recursion that maps a column: an array by the column of its elements, any other column by
its names. -/
inductive Maps : Column → ColumnType → Prop where
  /-- A column that is no array has the type that its names stand for. -/
  | plain {column : Column} (h : isArray column = false) :
      Maps column (plainType column column.typeName column.dataType)
  /-- An array is one of what its elements are mapped to. -/
  | array {column : Column} {element : ColumnType} (h : isArray column = true)
      (helement : Maps (elementColumn column) element) : Maps column (.array element)

/-- The number of underscores in front of a type name. -/
def underscores (typeName : String) : Nat :=
  (typeName.toList.takeWhile (· == '_')).length

/-- The number of layers of a column: one for each underscore, and at least one if the description
says that the column is an array. -/
def depth (column : Column) : Nat :=
  max (underscores column.typeName) (if upper column.dataType = "ARRAY" then 1 else 0)

theorem takeWhile_lowerAfter (cs : List Char) :
    ((lowerAfter false cs).takeWhile (· == '_')).length =
      (cs.takeWhile (· == '_')).length := by
  induction cs with
  | nil => rfl
  | cons c cs ih =>
    by_cases hc : c = '_'
    · subst hc
      have hsmall : lowerAfter false ('_' :: cs) = '_' :: lowerAfter false cs :=
        lowerAfter_cons_of_lt (by decide) false cs
      simpa [hsmall] using ih
    · have hhead : (c :: cs).head? ≠ some '_' := by simpa using hc
      have hnone : ∀ ds : List Char, ds.head? ≠ some '_' → ds.takeWhile (· == '_') = [] := by
        intro ds hds
        cases ds with
        | nil => rfl
        | cons d ds => simpa using hds
      rw [hnone _ hhead, hnone _ (head?_lowerAfter_ne hhead)]

theorem length_takeWhile_dropUnderscore (cs : List Char) :
    ((dropUnderscore cs).takeWhile (· == '_')).length =
      (cs.takeWhile (· == '_')).length - 1 := by
  cases cs with
  | nil => rfl
  | cons c cs =>
    by_cases hc : c = '_'
    · simp [dropUnderscore, hc]
    · simp [dropUnderscore, hc]

theorem dropUnderscore_subset (cs : List Char) : dropUnderscore cs ⊆ cs := by
  unfold dropUnderscore
  split
  · exact List.Subset.refl _
  · split
    · exact List.subset_cons_self _ _
    · exact List.Subset.refl _

variable (column : Column)

theorem isArray_iff : isArray column = true ↔ 0 < depth column := by
  have hname : column.typeName.toList.head? = some '_' ↔ 0 < underscores column.typeName := by
    unfold underscores
    cases column.typeName.toList with
    | nil => simp
    | cons c cs =>
      by_cases hc : c = '_' <;> simp [hc]
  rw [isArray, Bool.or_eq_true, beq_iff_eq, beq_iff_eq, hname, depth]
  split
  · next h => simp [h]
  · next h => simp [h]

/-- The elements of an array have one layer less. -/
theorem depth_elementColumn : depth (elementColumn column) = depth column - 1 := by
  have hname : underscores (elementColumn column).typeName =
      underscores column.typeName - 1 := by
    unfold underscores elementColumn lower
    rw [String.toList_ofList, String.toList_ofList, length_takeWhile_dropUnderscore,
      takeWhile_lowerAfter]
  rw [depth, depth, hname, elementColumn, if_neg upper_empty_ne]
  split <;> omega

/-- A column without a description whose type name is in small letters has the type of an element
of that name. -/
theorem ofColumn_of_isSmall {column : Column} (hdescription : column.dataType = "")
    (hsmall : ∀ c ∈ column.typeName.toList, IsSmall c) :
    ofColumn column = elementType column column.typeName.toList := by
  have hlower := lowerAfter_eq_self hsmall false
  by_cases hhead : column.typeName.toList.head? = some '_'
  · have harray : isArray column = true := by simp [isArray, hhead]
    obtain ⟨rest, hrest⟩ := List.head?_eq_some_iff.1 hhead
    rw [ofColumn, if_pos harray, hlower, hrest]
    rfl
  · have hplain : isArray column = false := by simp [isArray, hhead, hdescription, upper_empty_ne]
    rw [ofColumn, hplain, if_neg Bool.false_ne_true, elementType_eq hhead, hdescription,
      String.ofList_toList]

/-- Of the column itself only its labels and sizes are asked. -/
theorem elementType_elementColumn (cs : List Char) :
    elementType (elementColumn column) cs = elementType column cs := by
  have hsame : plainType (elementColumn column) = plainType column := plainType_retyped column _ _
  induction cs with
  | nil => rw [elementType, elementType, hsame]
  | cons c cs ih => rw [elementType, elementType, hsame, ih]

/-- The type of an array is made from that of its elements as a column. -/
theorem ofColumn_of_isArray (h : isArray column = true) :
    ofColumn column = .array (ofColumn (elementColumn column)) := by
  have hname : (elementColumn column).typeName.toList = elementName column := by
    simp [elementColumn, elementName, lower]
  have hsmall : ∀ c ∈ (elementColumn column).typeName.toList, IsSmall c := by
    intro c hc
    rw [hname] at hc
    exact isSmall_of_mem_lowerAfter c (dropUnderscore_subset _ hc)
  rw [ofColumn, if_pos h, ofColumn_of_isSmall rfl hsmall, elementType_elementColumn, hname]
  rfl

theorem ofColumn_of_not_isArray (h : isArray column = false) :
    ofColumn column = plainType column column.typeName column.dataType := by
  rw [ofColumn, h, if_neg Bool.false_ne_true]

/-- The recursion ends for every column, with the column's type and with no other. -/
theorem maps_iff {type : ColumnType} : Maps column type ↔ type = ofColumn column := by
  constructor
  · intro hmaps
    induction hmaps with
    | plain h => exact (ofColumn_of_not_isArray _ h).symm
    | array h _ ih => rw [ofColumn_of_isArray _ h, ih]
  · rintro rfl
    induction hdepth : depth column generalizing column with
    | zero =>
      have hplain : isArray column = false := by
        rw [← Bool.not_eq_true, isArray_iff, hdepth]
        exact Nat.lt_irrefl 0
      rw [ofColumn_of_not_isArray _ hplain]
      exact .plain hplain
    | succ n ih =>
      have harray : isArray column = true := (isArray_iff column).2 (by omega)
      rw [ofColumn_of_isArray _ harray]
      exact .array harray (ih _ (by rw [depth_elementColumn]; omega))

/-- A column is mapped in layers around the type of the column that the recursion ends with. -/
theorem ofColumn_eq_arrays :
    isArray (elementColumn^[depth column] column) = false ∧
      ofColumn column =
        arrays (depth column) (ofColumn (elementColumn^[depth column] column)) := by
  induction hdepth : depth column generalizing column with
  | zero =>
    refine ⟨?_, rfl⟩
    rw [← Bool.not_eq_true, isArray_iff, Function.iterate_zero_apply, hdepth]
    exact Nat.lt_irrefl 0
  | succ n ih =>
    have harray : isArray column = true := (isArray_iff column).2 (by omega)
    have helement : depth (elementColumn column) = n := by rw [depth_elementColumn]; omega
    obtain ⟨hplain, hlayers⟩ := ih _ helement
    rw [Function.iterate_succ_apply]
    exact ⟨hplain, by rw [ofColumn_of_isArray _ harray, hlayers, arrays]⟩

theorem plainType_ne_array (typeName dataType : String) (element : ColumnType) :
    plainType column typeName dataType ≠ .array element := by
  refine plainType_cases (motive := fun type => type ≠ .array element) ?_ ?_ ?_ typeName dataType
  · exact fun _ _ he => ColumnType.noConfusion he
  · exact fun _ _ he => ColumnType.noConfusion he
  · exact fun he => ColumnType.noConfusion he

/-- A column that is no array is a fallback exactly if its type is written as that of unknown
ones. -/
theorem isFallback_iff_render (h : isArray column = false) :
    (ofColumn column).isFallback = true ↔ (ofColumn column).typeExpr.render = "NullType" := by
  have hmentions : mentions (ofColumn column).typeExpr.render "NullType" =
      (ofColumn column).isFallback := mentions_nullType column .postgresql
  constructor
  · rw [ofColumn_of_not_isArray _ h]
    cases hplain : plainType column column.typeName column.dataType with
    | unmapped => exact fun _ => rfl
    | array element => exact absurd hplain (plainType_ne_array column _ _ element)
    | _ => exact fun hfalse => absurd hfalse Bool.false_ne_true
  · intro hrender
    rw [← hmentions, hrender]
    decide +kernel

end Postgresql

/-- The recursion that maps a PostgreSQL column ends for every column, after as many steps as the
column has layers, with a column that is no array, and the type is made of these layers around that
column's. In either dialect the type names that a type expression mentions are those that are
imported for it, in the same order, and all of them are known. -/
theorem layers_ofColumn (column : Column) :
    (∀ type, Postgresql.Maps column type ↔ type = ofColumn column .postgresql) ∧
      (∃ base, Postgresql.Maps (Postgresql.elementColumn^[Postgresql.depth column] column) base ∧
        IsLayered (Postgresql.depth column) base (ofColumn column .postgresql)) ∧
      ∀ dialect,
        typeNames (ofColumn column dialect).typeExpr.render =
            (ofColumn column dialect).imports.map Prod.snd ∧
          ∀ name ∈ typeNames (ofColumn column dialect).typeExpr.render, name ∈ symbolNames := by
  refine ⟨fun _ => Postgresql.maps_iff column, ?_, fun dialect => ?_⟩
  · -- layers
    obtain ⟨hplain, hlayers⟩ := Postgresql.ofColumn_eq_arrays column
    refine ⟨_, (Postgresql.maps_iff _).2 rfl, ?_⟩
    change IsLayered _ _ (Postgresql.ofColumn column)
    constructor
    · exact hlayers
    · rw [Postgresql.ofColumn_of_not_isArray _ hplain]
      exact Postgresql.plainType_ne_array _ _ _
    · rw [← render_arrays, ← hlayers]
    · rw [← render_hint_arrays, ← hlayers]
    · rw [← imports_arrays, ← hlayers]
    · rw [hlayers, isFallback_arrays]
      exact Postgresql.isFallback_iff_render _ hplain
  · -- names
    have hnames := namesImports_ofColumn column dialect
    rw [typeNames, usesOf_typeExpr, hnames.names]
    exact ⟨rfl, List.forall_mem_map.2 hnames.known⟩

example :
    (ofColumn { name := "grid", position := 1, typeName := "__Int4", dataType := "array" }
      .postgresql).typeExpr.render = "ARRAY(ARRAY(Integer))" := by
  decide +kernel

end ColumnType

end SchemaCodegen
