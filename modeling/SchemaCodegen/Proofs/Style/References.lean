import SchemaCodegen.Proofs.Style.ForeignKeys
import SchemaCodegen.Proofs.Text.Literal

/-!
# Proofs: what references refer to

A reference joins the name of a column to the name under which its table is registered, and that one
the name of the table to its schema, by a dot each time. Names may have dots of their own, so two
references to different tables may be written alike. They are not if their tables have as many dots
in their names, and their columns too: then every foreign key to a listed table refers to one column
of one table.
-/

namespace SchemaCodegen

open SchemaCodegen.Text SchemaCodegen.Code SchemaCodegen.Code.Vocabulary

/-! ## Dots -/

/-- The number of dots in a name. -/
def dots (name : String) : Nat :=
  name.toList.count '.'

/-- A text that goes on up to the dot of another one has one more dot from its own dot on. -/
theorem eq_nil_of_count_dot {front rest rest' : List Char}
    (h : '.' :: rest = front ++ '.' :: rest') (hcount : rest.count '.' = rest'.count '.') :
    front = [] := by
  cases front with
  | nil => rfl
  | cons first front =>
    rw [List.cons_append, List.cons.injEq] at h
    rw [h.2, List.count_append, List.count_cons_self] at hcount
    omega

/-- Texts that are joined by a dot are told apart if it is known how many dots the second has. -/
theorem append_dot_inj {a b c d : String} (h : dots b = dots d) :
    a ++ "." ++ b = c ++ "." ++ d ↔ a = c ∧ b = d := by
  constructor
  · intro he
    have hlist : a.toList ++ '.' :: b.toList = c.toList ++ '.' :: d.toList := by
      simpa using congrArg String.toList he
    have hsame : a.toList = c.toList ∧ '.' :: b.toList = '.' :: d.toList := by
      rcases List.append_eq_append_iff.1 hlist with ⟨front, hfirst, hrest⟩ | ⟨front, hfirst, hrest⟩
      · obtain rfl := eq_nil_of_count_dot hrest h
        exact ⟨by simpa using hfirst.symm, hrest⟩
      · obtain rfl := eq_nil_of_count_dot hrest h.symm
        exact ⟨by simpa using hfirst, hrest.symm⟩
    exact ⟨String.toList_inj.1 hsame.1, String.toList_inj.1 (List.cons.inj hsame.2).2⟩
  · rintro ⟨rfl, rfl⟩
    rfl

theorem dots_append_dot (a b : String) : dots (a ++ "." ++ b) = dots a + 1 + dots b := by
  simp [dots]
  omega

/-! ## Registered names -/

/-- The name under which a table is registered: its own, after the schema where one is given. -/
def registered (schema? : Option String) (name : String) : String :=
  match schema? with
  | some owner => owner ++ "." ++ name
  | none => name

/-- Tables with as many dots in their names are registered under different names. -/
theorem registered_inj {schema? other? : Option String} {name other : String}
    (h : dots name = dots other) :
    registered schema? name = registered other? other ↔ schema? = other? ∧ name = other := by
  have hmore : ∀ owner rest : String, dots rest < dots (owner ++ "." ++ rest) := by
    intro owner rest
    rw [dots_append_dot]
    omega
  cases schema? with
  | none =>
    cases other? with
    | none => simp [registered]
    | some owner =>
      refine iff_of_false (fun he => ?_) (by simp)
      have hless := hmore owner other
      have hsame : dots name = dots (owner ++ "." ++ other) := congrArg dots he
      omega
  | some owner =>
    cases other? with
    | none =>
      refine iff_of_false (fun he => ?_) (by simp)
      have hless := hmore owner name
      have hsame : dots (owner ++ "." ++ name) = dots other := congrArg dots he
      omega
    | some owner' =>
      rw [Option.some.injEq]
      exact append_dot_inj h

/-- A schema, unless it is the default of the dialect. -/
def spelledOut? (owner : String) (dialect : Dialect) : Option String :=
  if owner == dialect.defaultSchema then none else some owner

theorem spelledOut?_inj {owner other : String} {dialect : Dialect} :
    spelledOut? owner dialect = spelledOut? other dialect ↔ owner = other := by
  constructor
  · intro he
    unfold spelledOut? at he
    split at he
    · next hdefault =>
      split at he
      · next hother => rw [eq_of_beq hdefault, eq_of_beq hother]
      · cases he
    · split at he
      · cases he
      · exact Option.some.inj he
  · rintro rfl
    rfl

/-- The name under which the code of a table has to register it. -/
def Table.registeredName (table : Table) (dialect : Dialect) : String :=
  registered (table.explicitSchema? dialect) table.name

/-- A reference is the registered name of the table with the column behind it. -/
theorem referenceText_eq (target : ForeignKey) (column : String) (dialect : Dialect) :
    referenceText target column dialect =
      registered (spelledOut? target.schema dialect) target.table ++ "." ++ column := by
  unfold referenceText spelledOut?
  split
  · rfl
  · rfl

/-- References with as many dots in their tables and in their columns differ in what they refer
to. -/
theorem referenceText_inj {target other : ForeignKey} {column otherColumn : String}
    {dialect : Dialect} (htable : dots target.table = dots other.table)
    (hcolumn : dots column = dots otherColumn) :
    referenceText target column dialect = referenceText other otherColumn dialect ↔
      target.schema = other.schema ∧ target.table = other.table ∧ column = otherColumn := by
  rw [referenceText_eq, referenceText_eq, append_dot_inj hcolumn, registered_inj htable,
    spelledOut?_inj, and_assoc]

/-! ## The names that code registers -/

namespace Code

/-- The schema that an argument gives to a table, as a keyword or among others. -/
def Expr.givenSchema? : Expr → Option String
  | .keyword name (.literal owner) => if name == "schema" then some owner else none
  | .dict entries => entries.lookup "schema"
  | _ => none

/-- The name under which an assignment registers its table. -/
def TableBlock.registeredName (block : TableBlock) : String :=
  registered (block.items.findSome? Expr.givenSchema?) block.table

/-- The name under which a class registers its table. -/
def ClassBlock.registeredName (block : ClassBlock) : String :=
  registered (block.items.findSome? Expr.givenSchema?) block.table

/-- Calls give no schema. -/
theorem findSome?_givenSchema?_of_calls (es : List Expr)
    (h : ∀ e ∈ es, ∃ callee args, e = .call callee args) :
    es.findSome? Expr.givenSchema? = none := by
  refine List.findSome?_eq_none_iff.2 fun e he => ?_
  obtain ⟨callee, args, rfl⟩ := h e he
  rfl

end Code

section Registered

variable (dialect : Dialect) (options : Options) (table : Table) (name : String)

/-- An assignment registers its table under the name that it has to. -/
theorem registeredName_blockOf :
    (TableObjects.blockOf dialect options table name).registeredName =
      table.registeredName dialect := by
  have hcolumns := findSome?_givenSchema?_of_calls
    (table.columns.map (TableObjects.columnItem table dialect options))
    (List.forall_mem_map.2 fun _ _ => ⟨_, _, rfl⟩)
  have hconstraints := findSome?_givenSchema?_of_calls
    (TableObjects.constraintItems table dialect options) fun e he => by
      rcases TableObjects.cases_of_mem_constraintItems he with
        ⟨_, _, rfl⟩ | ⟨_, rfl⟩ | ⟨_, rfl⟩ <;> exact ⟨_, _, rfl⟩
  have hindexes := findSome?_givenSchema?_of_calls
    (TableObjects.indexItems table options) fun e he => by
      obtain ⟨_, rfl⟩ := TableObjects.exists_of_mem_indexItems he
      exact ⟨_, _, rfl⟩
  have hcomment : (commentArguments table.comment options).findSome? Expr.givenSchema? = none := by
    refine List.findSome?_eq_none_iff.2 fun e he => ?_
    obtain ⟨_, rfl⟩ := exists_of_mem_commentArguments he
    rfl
  have hschema : (TableObjects.schemaItems table dialect).findSome? Expr.givenSchema? =
      table.explicitSchema? dialect := by
    unfold TableObjects.schemaItems
    cases table.explicitSchema? dialect with
    | none => rfl
    | some owner => rfl
  have hitems : (TableObjects.blockOf dialect options table name).items.findSome?
      Expr.givenSchema? = table.explicitSchema? dialect := by
    show (TableObjects.itemsOf table dialect options).findSome? _ = _
    unfold TableObjects.itemsOf
    simp only [List.findSome?_append, hcolumns, hconstraints, hindexes, hcomment, hschema,
      Option.none_or]
  rw [TableBlock.registeredName, hitems]
  rfl

/-- A class registers its table under the name that it has to. -/
theorem registeredName_classOf :
    (Declarative.classOf dialect options table name).registeredName =
      table.registeredName dialect := by
  have hconstraints := findSome?_givenSchema?_of_calls
    (Declarative.constraintArguments table dialect options) fun e he => by
      rcases Declarative.cases_of_mem_constraintArguments he with
        ⟨_, _, rfl⟩ | ⟨_, rfl⟩ <;> exact ⟨_, _, rfl⟩
  have hindexes := findSome?_givenSchema?_of_calls
    (Declarative.indexArguments table options) fun e he => by
      obtain ⟨_, rfl⟩ := Declarative.exists_of_mem_indexArguments he
      exact ⟨_, _, rfl⟩
  have hlookup : (Declarative.tableKeywords table dialect options).lookup "schema" =
      table.explicitSchema? dialect := by
    unfold Declarative.tableKeywords
    cases table.explicitSchema? dialect <;> cases options.noComments <;> cases table.comment <;> rfl
  have hkeywords : (Declarative.keywordArguments table dialect options).findSome?
      Expr.givenSchema? = table.explicitSchema? dialect := by
    rw [← hlookup]
    unfold Declarative.keywordArguments
    cases Declarative.tableKeywords table dialect options with
    | nil => rfl
    | cons entry entries =>
      rw [List.findSome?_singleton]
      rfl
  have hitems : (Declarative.classOf dialect options table name).items.findSome?
      Expr.givenSchema? = table.explicitSchema? dialect := by
    rw [Declarative.items_classOf]
    simp only [List.findSome?_append, hconstraints, hindexes, hkeywords, Option.none_or]
  rw [ClassBlock.registeredName, hitems]
  rfl

end Registered

/-! ## What references refer to -/

/-- A reference that names one column of one listed table, the target of a foreign key: among the
tables and columns with as many dots in their names there is no other that it could name. -/
def Schema.Identifies (schema : Schema) (target : ForeignKey) (column : String)
    (reference : Expr) : Prop :=
  ∃ table ∈ schema.tables, table.key = (target.schema, target.table) ∧
    ∀ other ∈ schema.tables, ∀ otherColumn, dots other.name = dots target.table →
      dots otherColumn = dots column →
      (reference = .literal (other.registeredName schema.dialect ++ "." ++ otherColumn) ↔
        other = table ∧ otherColumn = column)

/-- The foreign keys that the class and the assignment of a table state. -/
def statedForeignKeys (block : ClassBlock) (assignment : TableBlock) : List Expr :=
  block.foreignKeys ++ block.attributes.flatMap Attribute.foreignKeys ++ assignment.foreignKeys

/-- The class and the assignment of a table register it under its own name, and their references
identify the columns that they refer to. -/
structure IdentifiesTables (schema : Schema) (options : Options) (table : Table)
    (block : ClassBlock) (assignment : TableBlock) : Prop where
  /-- The class registers the table under its name, after the schema where that is spelled out. -/
  ofClass : block.registeredName = table.registeredName schema.dialect
  /-- So does the assignment. -/
  ofAssignment : assignment.registeredName = table.registeredName schema.dialect
  /-- What is stated of a foreign key to a listed table names that table's columns. -/
  references : options.noConstraints = false → ∀ e ∈ statedForeignKeys block assignment,
    ∃ key ∈ table.foreignKeys, ∃ target, key.target? = some target ∧
      ((target.schema, target.table) ∈ schema.tables.map Table.key →
        List.Forall₂ (schema.Identifies target) target.columns e.referredColumns)

/-- A reference to a listed table names one column of it. -/
theorem Schema.identifies_referenceText {schema : Schema}
    (hkeys : (schema.tables.map Table.key).Nodup) {target : ForeignKey}
    (hlisted : (target.schema, target.table) ∈ schema.tables.map Table.key) (column : String) :
    schema.Identifies target column (.literal (referenceText target column schema.dialect)) := by
  obtain ⟨table, htable, hkey⟩ := List.mem_map.1 hlisted
  refine ⟨table, htable, hkey, fun other hother otherColumn hname hcolumn => ?_⟩
  have hsame : other.key = (target.schema, target.table) ↔ other = table := by
    rw [← hkey]
    exact ⟨List.inj_on_of_nodup_map hkeys hother htable, fun he => by rw [he]⟩
  have hschema : other.explicitSchema? schema.dialect = spelledOut? other.schema schema.dialect :=
    rfl
  rw [Expr.literal.injEq, referenceText_eq, Table.registeredName, append_dot_inj hcolumn.symm,
    registered_inj hname.symm, hschema, spelledOut?_inj, ← hsame, Table.key, Prod.mk.injEq,
    eq_comm (a := target.schema), eq_comm (a := target.table), eq_comm (a := column)]

/-- What is stated is a foreign key of the table, and refers to the columns of its target. -/
theorem exists_target_of_mem_statedForeignKeys {dialect : Dialect} {options : Options}
    {table : Table} (hwell : table.WellFormed) (hon : options.noConstraints = false)
    {name variableName : String} {e : Expr}
    (h : e ∈ statedForeignKeys (Declarative.classOf dialect options table name)
      (TableObjects.blockOf dialect options table variableName)) :
    ∃ key ∈ table.foreignKeys, ∃ target, key.target? = some target ∧
      e.referredColumns = references target dialect := by
  have hstatement : ∀ key ∈ table.foreignKeys, e = key.statement dialect →
      ∃ key ∈ table.foreignKeys, ∃ target, key.target? = some target ∧
        e.referredColumns = references target dialect := by
    intro key hkey he
    obtain ⟨target, htarget, hreferred⟩ := (Constraint.isStatedBy_statement dialect
      (Table.isForeignKey_of_mem key hkey)).referredColumns
    exact ⟨key, hkey, target, htarget, by rw [he, hreferred]⟩
  rw [statedForeignKeys, List.mem_append, List.mem_append] at h
  rcases h with (hclass | hattribute) | hassignment
  · -- on the table, in the class
    rw [Declarative.foreignKeys_classOf dialect table name hon] at hclass
    obtain ⟨key, hkey, he⟩ := List.mem_map.1 hclass
    exact hstatement key (List.mem_of_mem_filter hkey) he.symm
  · -- on a column
    obtain ⟨a, ha, he⟩ := List.mem_flatMap.1 hattribute
    obtain ⟨column, _, label, _, rfl⟩ := exists_of_mem_zipWith ha
    rw [Declarative.foreignKeys_attributeOf dialect table label hon, Option.mem_toList] at he
    obtain ⟨target, hbind, rfl⟩ := Option.map_eq_some_iff.1 he
    obtain ⟨key, hfound, htarget⟩ := Option.bind_eq_some_iff.1 hbind
    obtain ⟨hkey, hcolumns⟩ := Table.of_columnForeignKey? hfound
    have hlength : target.columns.length = 1 := by
      rw [(hwell.constraints key (List.mem_of_mem_filter hkey)).length_eq target htarget, hcolumns]
      rfl
    exact ⟨key, hkey, target, htarget,
      (Constraint.sameReference_columnReference key hlength).referredColumns⟩
  · -- in the assignment
    rw [TableObjects.foreignKeys_blockOf dialect table variableName hon] at hassignment
    obtain ⟨key, hkey, he⟩ := List.mem_map.1 hassignment
    exact hstatement key hkey he.symm

theorem identifiesTables {schema : Schema} {options : Options} (hwell : schema.WellFormed)
    {table : Table} (htable : table ∈ schema.tables) (name variableName : String) :
    IdentifiesTables schema options table (Declarative.classOf schema.dialect options table name)
      (TableObjects.blockOf schema.dialect options table variableName) where
  ofClass := registeredName_classOf ..
  ofAssignment := registeredName_blockOf ..
  references hon e he := by
    obtain ⟨key, hkey, target, htarget, hreferred⟩ :=
      exists_target_of_mem_statedForeignKeys (hwell.tables table htable) hon he
    refine ⟨key, hkey, target, htarget, fun hlisted => ?_⟩
    rw [hreferred, Code.references, List.forall₂_map_right_iff, List.forall₂_same]
    exact fun column _ => schema.identifies_referenceText hwell.keys hlisted column

/-- References whose tables have as many dots in their names, and whose columns have, are written
alike in no dialect unless they refer to the same column of the same table. So every foreign key to
a listed table that the texts of a schema state names the columns of that table and of no other
under the name that the texts register it by. -/
theorem references_identify_columns [Holding] {schema : Schema} (options : Options)
    (hwell : schema.WellFormed) :
    (∀ (dialect : Dialect) (target other : ForeignKey) (column otherColumn : String),
      dots target.table = dots other.table → dots column = dots otherColumn →
      (quote (referenceText target column dialect) =
          quote (referenceText other otherColumn dialect) ↔
        target.schema = other.schema ∧ target.table = other.table ∧ column = otherColumn)) ∧
      schema.WrittenAs options (IdentifiesTables schema options) := by
  constructor
  · intro dialect target other column otherColumn htable hcolumn
    rw [quote_injective.eq_iff, referenceText_inj htable hcolumn]
  · exact schema.writtenAs options fun table htable name variableName =>
      identifiesTables hwell htable name variableName

/-- Posts refer to their authors, and to their authors' accounts in another schema, which has a
table of the same name. -/
def forum : Schema :=
  { tables := [
      { name := "users", columns := [{ name := "id", position := 1, typeName := "int4" }] },
      { schema := "auth", name := "users"
        columns := [{ name := "id", position := 1, typeName := "int4" }] },
      { name := "posts"
        columns := [
          { name := "author", position := 1, typeName := "int4" },
          { name := "account", position := 2, typeName := "int4" }]
        constraints := [
          ⟨"to_author", .foreignKey ⟨"public", "users", ["id"], "", ""⟩, ["author"]⟩,
          ⟨"to_account", .foreignKey ⟨"auth", "users", ["id"], "", ""⟩, ["account"]⟩] }] }

/-- The two tables are registered under two names, and the references of the posts name both. -/
theorem references_identify_columns_forum :
    forum.WellFormed ∧ forum.WrittenAs {} (IdentifiesTables forum {}) ∧
      forum.tables.map (·.registeredName forum.dialect) = ["users", "auth.users", "posts"] ∧
      (TableObjects.blocks forum {}).map
          (fun block => block.foreignKeys.flatMap fun e => e.referredColumns.map Expr.render) =
        [[], [], ["'users.id'", "'auth.users.id'"]] ∧
      quote (referenceText ⟨"public", "users", ["id"], "", ""⟩ "id" .postgresql) ≠
        quote (referenceText ⟨"auth", "users", ["id"], "", ""⟩ "id" .postgresql) := by
  have hwell : forum.WellFormed := by decide
  obtain ⟨hinj, hwritten⟩ := references_identify_columns {} hwell
  refine ⟨hwell, hwritten, by decide +kernel, by decide +kernel, fun hsame => ?_⟩
  have hschema := (hinj .postgresql ⟨"public", "users", ["id"], "", ""⟩
    ⟨"auth", "users", ["id"], "", ""⟩ "id" "id" rfl rfl).1 hsame
  exact absurd hschema.1 (by decide)

/-- A table whose name has a dot may be taken for one of another schema: references that name
different tables can be written alike. -/
theorem references_ambiguous :
    ¬∀ (dialect : Dialect) (target other : ForeignKey) (column otherColumn : String),
      target.schema ≠ "" → target.table ≠ "" → column ≠ "" →
      other.schema ≠ "" → other.table ≠ "" → otherColumn ≠ "" →
      quote (referenceText target column dialect) =
          quote (referenceText other otherColumn dialect) →
        target.schema = other.schema ∧ target.table = other.table ∧ column = otherColumn := by
  intro h
  have hsame := h .postgresql ⟨"public", "auth.users", ["id"], "", ""⟩
    ⟨"auth", "users", ["id"], "", ""⟩ "id" "id" (by decide) (by decide) (by decide) (by decide)
    (by decide) (by decide) (by decide +kernel)
  exact absurd hsame.1 (by decide)

end SchemaCodegen
