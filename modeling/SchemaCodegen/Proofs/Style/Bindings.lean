import SchemaCodegen.Proofs.Naming.Crowding
import SchemaCodegen.Proofs.Style.Hiding

/-!
# Proofs: names that a class assigns

The body of a class assigns the name of its table, what is stated of the table if anything, and its
attributes. The attributes differ from each other, but nothing keeps them from the two names that a
class assigns before them: a column that is called as one of these takes it, and so do columns that
crowd up to it.
-/

namespace SchemaCodegen

open SchemaCodegen.Text SchemaCodegen.Code SchemaCodegen.Naming

/-! ## Assigned names -/

namespace Code

/-- The name that a line of a class body assigns: what stands between the margin and the first
character that is not part of a name. Lines without the margin assign nothing. -/
def assignedName? (line : String) : Option String :=
  if indent.toList.isPrefixOf line.toList then
    some (String.ofList ((line.toList.drop indent.length).takeWhile isNameChar))
  else none

/-- The names that the lines of a class assign, in order. -/
def ClassBlock.assignedNames (block : ClassBlock) : List String :=
  block.lines.filterMap assignedName?

/-- A line assigns the name after its margin, whatever comes behind it. -/
theorem assignedName?_indent_append {name rest : String} (hname : IsName name)
    (hrest : ∀ c ∈ rest.toList.head?, isNameChar c = false) :
    assignedName? (indent ++ name ++ rest) = some name := by
  have hmargin : indent.toList.isPrefixOf (indent ++ name ++ rest).toList = true := by
    rw [List.isPrefixOf_iff_prefix, String.toList_append, String.toList_append, List.append_assoc]
    exact List.prefix_append _ _
  have hbehind : rest.toList.takeWhile isNameChar = [] := by
    cases hcs : rest.toList with
    | nil => rfl
    | cons c cs =>
      rw [hcs] at hrest
      exact List.takeWhile_cons_of_neg (Bool.not_eq_true _ ▸ hrest c rfl)
  rw [assignedName?, if_pos hmargin, String.toList_append, String.toList_append, List.append_assoc,
    ← String.length_toList, List.drop_left, List.takeWhile_append_of_pos hname, hbehind,
    List.append_nil, String.ofList_toList]

/-- A line without the margin assigns nothing. -/
theorem assignedName?_of_margin {line : String}
    (h : indent.toList.isPrefixOf line.toList = false) : assignedName? line = none := by
  rw [assignedName?, h]
  rfl

/-- A line with an equals sign behind its name assigns that name. -/
theorem assignedName?_equals (name value : String) (hname : IsName name) :
    assignedName? (indent ++ (name ++ " = ") ++ value) = some name := by
  have hblank : isNameChar ' ' = false := by decide +kernel
  have hline : indent ++ (name ++ " = ") ++ value = indent ++ name ++ (" = " ++ value) := by
    simp only [String.append_assoc]
  rw [hline]
  refine assignedName?_indent_append hname fun c hc => ?_
  rw [String.toList_append] at hc
  exact Option.some.inj hc ▸ hblank

theorem assignedName?_line {a : Attribute} (h : IsName a.name) :
    assignedName? a.line = some a.name := by
  have hcolon : isNameChar ':' = false := by decide +kernel
  have hline : a.line =
      indent ++ a.name ++ (": " ++ a.hint.render ++ " = " ++ a.value.render) := by
    simp only [Attribute.line, String.append_assoc]
  rw [hline]
  refine assignedName?_indent_append h fun c hc => ?_
  simp only [String.toList_append] at hc
  exact Option.some.inj hc ▸ hcolon

namespace ClassBlock

variable {block : ClassBlock}

theorem filterMap_argsLines :
    block.argsLines.filterMap assignedName? =
      block.tableArgs.toList.map fun _ => "__table_args__" := by
  unfold argsLines
  cases block.tableArgs with
  | none => rfl
  | some args =>
    have hargs : assignedName? (indent ++ "__table_args__ = " ++ args.render) =
        some "__table_args__" :=
      assignedName?_equals "__table_args__" _ (by decide +kernel)
    exact List.filterMap_cons_some hargs

theorem filterMap_attributeLines (h : ∀ a ∈ block.attributes, IsName a.name) :
    block.attributeLines.filterMap assignedName? = block.attributes.map Attribute.name := by
  have hempty : assignedName? "" = none := assignedName?_of_margin rfl
  have hlines : (block.attributes.map Attribute.line).filterMap assignedName? =
      block.attributes.map Attribute.name := by
    rw [List.filterMap_map, ← List.filterMap_eq_map]
    exact List.filterMap_congr fun a ha => assignedName?_line (h a ha)
  unfold attributeLines
  split
  · next hnil => rw [hnil, List.filterMap_nil, List.map_nil]
  · rw [List.filterMap_cons_none hempty, hlines]

/-- A class assigns the name of its table, what is stated of the table, and its attributes. -/
theorem assignedNames_eq (h : ∀ a ∈ block.attributes, IsName a.name) :
    block.assignedNames =
      "__tablename__" :: (block.tableArgs.toList.map fun _ => "__table_args__") ++
        block.attributes.map Attribute.name := by
  have hclass : assignedName? ("class " ++ block.name ++ "(Base):") = none := by
    refine assignedName?_of_margin ?_
    rw [String.toList_append, String.toList_append]
    rfl
  have htable : assignedName? (indent ++ "__tablename__ = " ++ quote block.table) =
      some "__tablename__" :=
    assignedName?_equals "__tablename__" _ (by decide +kernel)
  rw [assignedNames, lines, List.filterMap_append, List.filterMap_append, filterMap_argsLines,
    filterMap_attributeLines h, List.filterMap_cons_none hclass, List.filterMap_cons_some htable,
    List.filterMap_nil, List.singleton_append]

end ClassBlock

end Code

/-! ## Columns that crowd up to a name -/

/-- More columns than there is room for ask for a name or for the names that lead up to it by
underscores. -/
def Table.CrowdsOnto (table : Table) (name : String) : Prop :=
  ∃ stem n, extended stem n = name ∧
    n < table.columns.countP fun column => (extensions stem n).contains (attributeName column.name)

namespace Declarative

/-- A name that begins as no reserved one is that of an attribute exactly if columns crowd up to
it. -/
theorem mem_attributeNames_iff {table : Table} {name : String}
    (h : ∀ word ∈ reservedAttributeNames, ¬word.toList <+: name.toList) :
    name ∈ attributeNames table ↔ table.CrowdsOnto name := by
  have hfree : name ∉ reservedAttributeNames := fun hname => h name hname (List.prefix_refl _)
  rw [attributeNames, mem_claimAll_iff, and_iff_right hfree]
  refine exists_congr fun stem => exists_congr fun n => and_congr_right fun hlast => ?_
  rw [Crowds, countP_extensions_eq_zero (hlast ▸ h), Nat.zero_add, List.countP_map]
  rfl

/-- What the body of a class assigns, and when it assigns a name twice. -/
structure AssignsOnceUnlessCrowded (table : Table) (block : ClassBlock) : Prop where
  /-- It assigns the name of its table, what is stated of the table if anything, and its
  attributes. -/
  assigned : block.assignedNames =
    "__tablename__" :: (block.tableArgs.toList.map fun _ => "__table_args__") ++
      block.attributes.map Attribute.name
  /-- There is one attribute for each column. -/
  length : block.attributes.length = table.columns.length
  /-- The attributes differ. -/
  nodup : (block.attributes.map Attribute.name).Nodup
  /-- So all names differ, unless columns crowd up to one of the two that are no attributes. -/
  nodup_iff : block.assignedNames.Nodup ↔
    ¬table.CrowdsOnto "__tablename__" ∧
      (block.tableArgs.isSome → ¬table.CrowdsOnto "__table_args__")

variable (table : Table) (dialect : Dialect) (options : Options) (label : String)

/-- The class of a table assigns each name once, unless columns of the table crowd up to the name
under which it states its table, or to the one under which it states something of the table. -/
theorem assignsOnceUnlessCrowded_classOf :
    AssignsOnceUnlessCrowded table (classOf dialect options table label) := by
  have hspoken := isSpoken_attributesOf table dialect options
  have hassigned := (classOf dialect options table label).assignedNames_eq
    fun a ha => (hspoken a ha).name
  have hnames := map_name_classOf table dialect options label
  have hnodup : (attributeNames table).Nodup := nodup_claimAll _ _
  have htable : "__tablename__" ∈ attributeNames table ↔ table.CrowdsOnto "__tablename__" :=
    mem_attributeNames_iff (by decide +kernel)
  have hargs : "__table_args__" ∈ attributeNames table ↔ table.CrowdsOnto "__table_args__" :=
    mem_attributeNames_iff (by decide +kernel)
  refine
    { assigned := hassigned
      length := length_attributesOf table dialect options
      nodup := hnames ▸ hnodup
      nodup_iff := ?_ }
  rw [hassigned, hnames, List.cons_append, List.nodup_cons, List.mem_append, not_or, htable]
  cases (classOf dialect options table label).tableArgs with
  | none => simp [hnodup]
  | some args => simp [hnodup, hargs]

/-- A table with a column that is called as the name under which a class states its table. -/
def pages : Table :=
  { name := "pages"
    columns := [{ name := "id", position := 1, nullable := false, typeName := "int4" },
      { name := "__tablename__", position := 2, typeName := "text" }]
    constraints := [⟨"pages_pkey", .primaryKey, ["id"]⟩] }

theorem not_nodup_assignedNames_pages :
    ¬(classOf .postgresql {} pages "Pages").assignedNames.Nodup := by
  decide +kernel

end Declarative

end SchemaCodegen
