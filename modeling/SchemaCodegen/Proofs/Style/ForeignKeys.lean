import SchemaCodegen.Proofs.ColumnType.Cases
import SchemaCodegen.Proofs.Style.Written
import SchemaCodegen.Schema.Invariant

/-!
# Proofs: every foreign key is stated once

A table assignment states every foreign key of its table among the constraints. A class states a
foreign key on its column, if the key is the only one that has exactly this column, and on the table
otherwise. Both ways of stating it refer to the same columns with the same actions, and no key is
left out or stated both ways.
-/

namespace SchemaCodegen

open SchemaCodegen.Text SchemaCodegen.Code SchemaCodegen.Code.Vocabulary

/-! ## Foreign keys in code -/

namespace Code.Expr

/-- Whether the expression is a call of the given name. -/
def calls (name : String) : Expr → Bool
  | .call callee _ => callee.name == name
  | _ => false

/-- Whether the expression states a foreign key, on a table or on a column. -/
def isForeignKey (e : Expr) : Bool :=
  e.calls "ForeignKeyConstraint" || e.calls "ForeignKey"

/-- Whether the expression is a literal. -/
def isLiteral : Expr → Bool
  | .literal _ => true
  | _ => false

/-- The arguments of a call. -/
def args : Expr → List Expr
  | .call _ args => args
  | _ => []

/-- The columns of its own table that a constraint lists. -/
def localColumns (e : Expr) : List Expr :=
  match e.args with
  | .list columns :: _ => columns
  | _ => []

/-- The columns that a foreign key refers to: its second list, or the literals in its place. -/
def referredColumns (e : Expr) : List Expr :=
  match e.args with
  | .list _ :: .list columns :: _ => columns
  | args => args.filter isLiteral

/-- The values that a call gives to a keyword. -/
def valuesOf (e : Expr) (keyword : String) : List Expr :=
  e.args.filterMap fun
    | .keyword name value => if name == keyword then some value else none
    | _ => none

/-- Two foreign keys that refer to the same columns with the same actions. -/
structure SameReference (a b : Expr) : Prop where
  /-- They refer to the same columns. -/
  referredColumns : a.referredColumns = b.referredColumns
  /-- They have the same action on deletion. -/
  deleteAction : a.valuesOf "ondelete" = b.valuesOf "ondelete"
  /-- They have the same action on update. -/
  updateAction : a.valuesOf "onupdate" = b.valuesOf "onupdate"

end Code.Expr

/-- The foreign keys that a class states on its table. -/
def Code.ClassBlock.foreignKeys (block : ClassBlock) : List Expr :=
  match block.tableArgs with
  | some (.tuple items) => items.filter Expr.isForeignKey
  | _ => []

/-- The foreign keys that an attribute states on its column. -/
def Code.Attribute.foreignKeys (a : Attribute) : List Expr :=
  a.value.args.filter Expr.isForeignKey

/-- The foreign keys that an assignment states. -/
def Code.TableBlock.foreignKeys (block : TableBlock) : List Expr :=
  block.items.filter Expr.isForeignKey

/-! ## The rule -/

/-- Whether a foreign key of the table has one column and is the only one with exactly it. -/
def Table.isSole (table : Table) (key : Constraint) : Bool :=
  key.columns.length == 1 &&
    table.foreignKeys.countP (fun other => other.columns == key.columns) == 1

/-- An expression that states a foreign key on its table with all that belongs to it. -/
structure Constraint.IsStatedBy (key : Constraint) (dialect : Dialect) (e : Expr) : Prop where
  /-- It is a constraint on the table. -/
  onTable : e.calls "ForeignKeyConstraint" = true
  /-- It lists the columns of the key. -/
  localColumns : e.localColumns = Expr.literals key.columns
  /-- It refers to the columns that the key refers to. -/
  referredColumns : ∃ target, key.target? = some target ∧
    e.referredColumns = references target dialect
  /-- It has the name of the key. -/
  name : e.valuesOf "name" = [.literal key.name]

/-- The foreign keys of a table, each with the expression that states it in an assignment. -/
def Table.statedKeys (table : Table) (assignment : TableBlock) : List (Constraint × Expr) :=
  table.foreignKeys.zip assignment.foreignKeys

/-- How the class and the assignment of a table state its foreign keys. -/
structure StatesForeignKeys (dialect : Dialect) (table : Table) (block : ClassBlock)
    (assignment : TableBlock) : Prop where
  /-- The assignment states every foreign key once, in order. -/
  assigned : List.Forall₂ (fun key e => key.IsStatedBy dialect e) table.foreignKeys
    assignment.foreignKeys
  /-- The class states on the table those that are not alone on a column, in the same words and in
  the same order. -/
  onTable : block.foreignKeys =
    ((table.statedKeys assignment).filter fun stated => !table.isSole stated.1).map Prod.snd
  /-- What is alone on its column is not stated on the table. -/
  apart : ∀ stated ∈ table.statedKeys assignment, table.isSole stated.1 = true →
    stated.2 ∉ block.foreignKeys
  /-- The attribute of a column states those that are alone on it, with the references and actions
  of the assignment, and no others. -/
  onColumns : List.Forall₂ (fun column a =>
      List.Forall₂ (fun stated e => e.calls "ForeignKey" = true ∧ e.SameReference stated.2)
        ((table.statedKeys assignment).filter fun stated =>
          table.isSole stated.1 && stated.1.columns == [column.name])
        a.foreignKeys)
    table.columns block.attributes
  /-- No attribute states more than one. -/
  once : ∀ a ∈ block.attributes, a.foreignKeys.length ≤ 1
  /-- Where a key is alone on a column, there is such a column. -/
  somewhere : ∀ key ∈ table.foreignKeys, table.isSole key = true →
    ∃ column ∈ table.columns, key.columns = [column.name]

/-! ## Keys that are alone on their column -/

namespace Table

variable (table : Table)

theorem isColumnLevel_eq_isSole (key : Constraint) :
    table.isColumnLevel key = table.isSole key := by
  unfold isColumnLevel isSole
  obtain ⟨name, kind, columns⟩ := key
  match columns with
  | [] => rfl
  | [column] =>
    show (table.columnForeignKey? column).isSome =
      (table.foreignKeys.countP (fun other => other.isOn column) == 1)
    rw [List.countP_eq_length_filter]
    unfold columnForeignKey?
    generalize table.foreignKeys.filter (·.isOn column) = keys
    match keys with
    | [] => rfl
    | [key] => rfl
    | a :: b :: rest => rfl
  | a :: b :: rest => rfl

/-- The keys that are alone on a column are the one that is stated on it, if there is one. -/
theorem filter_isSole_eq (column : String) :
    (table.foreignKeys.filter fun key => table.isSole key && key.columns == [column]) =
      (table.columnForeignKey? column).toList := by
  have hsole : ∀ key ∈ table.foreignKeys,
      (table.isSole key && key.columns == [column]) =
        (key.isOn column && ((table.foreignKeys.filter (·.isOn column)).length == 1)) := by
    intro key _
    by_cases hon : key.columns = [column]
    · unfold isSole Constraint.isOn
      rw [← List.countP_eq_length_filter, hon]
      simp
    · have hfalse : key.isOn column = false := beq_eq_false_iff_ne.2 hon
      rw [hfalse, beq_eq_false_iff_ne.2 hon, Bool.and_false, Bool.false_and]
  rw [List.filter_congr hsole]
  unfold columnForeignKey?
  generalize hkeys : table.foreignKeys.filter (·.isOn column) = keys
  match keys with
  | [] => simp
  | [key] => simpa using hkeys
  | a :: b :: rest => simp

end Table

/-! ## Statements on tables -/

namespace Constraint

/-- A foreign key as it is stated on its table. -/
def statement (dialect : Dialect) (key : Constraint) : Expr :=
  (foreignKeyConstraint? dialect key).getD (.tuple [])

variable {dialect : Dialect} {key : Constraint}

theorem foreignKeyConstraint?_eq (h : key.isForeignKey = true) :
    foreignKeyConstraint? dialect key = some (key.statement dialect) := by
  obtain ⟨target, htarget⟩ := Option.isSome_iff_exists.1 h
  unfold statement foreignKeyConstraint?
  rw [htarget]
  rfl

theorem exists_statement_eq (dialect : Dialect) (h : key.isForeignKey = true) :
    ∃ target, key.target? = some target ∧
      key.statement dialect = foreignKeyConstraint key target dialect := by
  obtain ⟨target, htarget⟩ := Option.isSome_iff_exists.1 h
  refine ⟨target, htarget, ?_⟩
  unfold statement foreignKeyConstraint?
  rw [htarget]
  rfl

theorem isForeignKey_statement (h : key.isForeignKey = true) :
    (key.statement dialect).isForeignKey = true := by
  obtain ⟨target, _, he⟩ := exists_statement_eq dialect h
  rw [he]
  rfl

/-- The actions are keywords other than the one for the name. -/
theorem exists_of_mem_actionArguments {target : ForeignKey} {e : Expr}
    (h : e ∈ actionArguments target) :
    ∃ keyword value, keyword ≠ "name" ∧ e = .keyword keyword value := by
  have haction : ∀ {keyword rule}, e ∈ actionArgument keyword rule →
      ∃ value, e = .keyword keyword value := by
    intro keyword rule he
    unfold actionArgument at he
    dsimp only at he
    split at he
    · cases he
    · exact ⟨_, List.mem_singleton.1 he⟩
  rcases List.mem_append.1 h with h | h
  · obtain ⟨value, he⟩ := haction h
    exact ⟨_, value, by decide, he⟩
  · obtain ⟨value, he⟩ := haction h
    exact ⟨_, value, by decide, he⟩

theorem isStatedBy_statement (dialect : Dialect) (h : key.isForeignKey = true) :
    key.IsStatedBy dialect (key.statement dialect) := by
  obtain ⟨target, htarget, he⟩ := exists_statement_eq dialect h
  rw [he]
  refine { onTable := rfl, localColumns := rfl, referredColumns := ⟨target, htarget, rfl⟩,
           name := ?_ }
  have hactions : (actionArguments target).filterMap (fun
      | .keyword name value => if name == "name" then some value else none
      | _ => none) = [] := by
    rw [List.filterMap_eq_nil_iff]
    intro e hmem
    obtain ⟨keyword, value, hne, rfl⟩ := exists_of_mem_actionArguments hmem
    exact if_neg (by simpa using hne)
  show List.filterMap _ ([.list (Expr.literals key.columns), .list (references target dialect)] ++
    actionArguments target ++ [named key.name]) = _
  rw [List.filterMap_append, List.filterMap_append, hactions]
  rfl

theorem filterMap_foreignKeyConstraint? {keys : List Constraint}
    (h : ∀ key ∈ keys, key.isForeignKey = true) :
    keys.filterMap (foreignKeyConstraint? dialect) = keys.map (statement dialect) :=
  List.filterMap_eq_map_iff_forall_eq_some.2 fun key hmem => foreignKeyConstraint?_eq (h key hmem)

theorem filter_statements {keys : List Constraint} (h : ∀ key ∈ keys, key.isForeignKey = true) :
    (keys.map (statement dialect)).filter Expr.isForeignKey = keys.map (statement dialect) :=
  List.filter_eq_self.2 (List.forall_mem_map.2 fun key hmem => isForeignKey_statement (h key hmem))

/-- A foreign key of one column refers to the same column with the same actions, whether it is
stated on its column or on its table. -/
theorem sameReference_columnReference {target : ForeignKey} (key : Constraint)
    (hlength : target.columns.length = 1) :
    (columnReference target dialect).SameReference (foreignKeyConstraint key target dialect) := by
  obtain ⟨column, hcolumn⟩ := List.length_eq_one_iff.1 hlength
  have hreferences : references target dialect =
      [.literal (referenceText target column dialect)] := by
    unfold references
    rw [hcolumn]
    rfl
  have hactions : (actionArguments target).filter Expr.isLiteral = [] := by
    rw [List.filter_eq_nil_iff]
    intro e hmem
    obtain ⟨keyword, value, _, rfl⟩ := exists_of_mem_actionArguments hmem
    exact Bool.false_ne_true
  have hvalues : ∀ keyword, keyword ≠ "name" →
      (columnReference target dialect).valuesOf keyword =
        (foreignKeyConstraint key target dialect).valuesOf keyword := by
    intro keyword hne
    unfold columnReference foreignKeyConstraint Expr.valuesOf Expr.args
    rw [hreferences]
    simp [named, hne.symm]
  refine { referredColumns := ?_, deleteAction := hvalues _ (by decide),
           updateAction := hvalues _ (by decide) }
  unfold columnReference
  rw [hreferences]
  show List.filter Expr.isLiteral (.literal _ :: actionArguments target) =
    references target dialect
  rw [List.filter_cons_of_pos rfl, hactions, hreferences]

end Constraint

/-! ## Arguments that state no foreign key -/

theorem filter_isForeignKey_eq_nil {es : List Expr} (h : ∀ e ∈ es, e.isForeignKey = false) :
    es.filter Expr.isForeignKey = [] :=
  List.filter_eq_nil_iff.2 fun e he => by simp [h e he]

/-- No type is a foreign key. -/
theorem ColumnType.isForeignKey_typeExpr (column : Column) (dialect : Dialect) :
    (ofColumn column dialect).typeExpr.isForeignKey = false := by
  have hnames : ∀ row ∈ rowsOf dialect,
      row.name ≠ "ForeignKeyConstraint" ∧ row.name ≠ "ForeignKey" := by
    cases dialect <;> decide
  refine ofColumn_cases (motive := fun type => type.typeExpr.isForeignKey = false) ?_ ?_ ?_ rfl
  · intro row hrow
    obtain ⟨hconstraint, hreference⟩ := hnames row hrow
    unfold TypeRow.typeFor typeExpr
    cases TypeRow.argumentsFor column row.arguments with
    | nil => rfl
    | cons arg args =>
      simp [applied, Expr.isForeignKey, Expr.calls, TypeRow.symbol, hconstraint, hreference]
  · exact fun _ _ => rfl
  · exact fun _ _ => rfl

theorem isForeignKey_defaultArgument (column : Column) (dialect : Dialect) :
    ∀ e ∈ defaultArgument column dialect, e.isForeignKey = false := by
  intro e he
  obtain ⟨expression, rfl⟩ := exists_of_mem_defaultArgument he
  rfl

theorem isForeignKey_commentArguments (comment : Option String) (options : Options) :
    ∀ e ∈ commentArguments comment options, e.isForeignKey = false := by
  intro e he
  obtain ⟨text, rfl⟩ := exists_of_mem_commentArguments he
  rfl

/-! ## Classes and assignments -/

theorem Table.isForeignKey_of_mem {table : Table} :
    ∀ key ∈ table.foreignKeys, key.isForeignKey = true :=
  fun _ hmem => (List.mem_filter.1 hmem).2

theorem Code.ClassBlock.foreignKeys_eq (block : ClassBlock) :
    block.foreignKeys = block.items.filter Expr.isForeignKey := by
  unfold foreignKeys items
  cases block.tableArgs with
  | none => rfl
  | some args => cases args <;> rfl

namespace Declarative

variable (dialect : Dialect) {options : Options} (table : Table) (name : String)

/-- A class states on the table the keys that are not alone on a column. -/
theorem foreignKeys_classOf (hon : options.noConstraints = false) :
    (classOf dialect options table name).foreignKeys =
      (table.foreignKeys.filter fun key => !table.isSole key).map
        (Constraint.statement dialect) := by
  have hkeys : ∀ key ∈ table.foreignKeys.filter (fun key => !table.isSole key),
      key.isForeignKey = true :=
    fun key hmem => Table.isForeignKey_of_mem key (List.mem_of_mem_filter hmem)
  have hconstraints : (constraintArguments table dialect options).filter Expr.isForeignKey =
      (table.foreignKeys.filter fun key => !table.isSole key).map
        (Constraint.statement dialect) := by
    unfold constraintArguments
    simp only [hon, Bool.false_eq_true, if_false, Table.isColumnLevel_eq_isSole]
    rw [Constraint.filterMap_foreignKeyConstraint? hkeys, List.filter_append,
      Constraint.filter_statements hkeys, filter_isForeignKey_eq_nil, List.append_nil]
    exact List.forall_mem_map.2 fun _ _ => rfl
  have hindexes : (indexArguments table options).filter Expr.isForeignKey = [] := by
    refine filter_isForeignKey_eq_nil fun e he => ?_
    obtain ⟨index, rfl⟩ := exists_of_mem_indexArguments he
    rfl
  have hkeywords : (keywordArguments table dialect options).filter Expr.isForeignKey = [] := by
    refine filter_isForeignKey_eq_nil fun e he => ?_
    obtain ⟨entries, rfl⟩ := exists_of_mem_keywordArguments he
    rfl
  rw [ClassBlock.foreignKeys_eq, items_classOf, List.filter_append, List.filter_append,
    hconstraints, hindexes, hkeywords, List.append_nil, List.append_nil]

/-- An attribute states the key that is alone on its column, if there is one. -/
theorem foreignKeys_attributeOf (hon : options.noConstraints = false) (column : Column) :
    (attributeOf table dialect options column name).foreignKeys =
      (((table.columnForeignKey? column.name).bind Constraint.target?).map
        fun target => columnReference target dialect).toList := by
  have hname : (nameArgument column name).filter Expr.isForeignKey = [] := by
    refine filter_isForeignKey_eq_nil fun e he => ?_
    rw [eq_of_mem_nameArgument he]
    rfl
  have htype : [(ColumnType.ofColumn column dialect).typeExpr].filter Expr.isForeignKey = [] :=
    filter_isForeignKey_eq_nil
      (List.forall_mem_singleton.2 (ColumnType.isForeignKey_typeExpr column dialect))
  have hreference : (referenceArgument table column dialect options).filter Expr.isForeignKey =
      referenceArgument table column dialect options := by
    refine List.filter_eq_self.2 fun e he => ?_
    obtain ⟨target, rfl⟩ := exists_of_mem_referenceArgument he
    rfl
  have hkey : (primaryKeyArgument table column).filter Expr.isForeignKey = [] := by
    refine filter_isForeignKey_eq_nil fun e he => ?_
    rw [eq_of_mem_primaryKeyArgument he]
    rfl
  have hunique : (uniqueArgument table column options).filter Expr.isForeignKey = [] := by
    refine filter_isForeignKey_eq_nil fun e he => ?_
    rw [eq_of_mem_uniqueArgument he]
    rfl
  have hdefault := filter_isForeignKey_eq_nil (isForeignKey_defaultArgument column dialect)
  have hcomment := filter_isForeignKey_eq_nil (isForeignKey_commentArguments column.comment options)
  show (columnArguments table column name dialect options).filter Expr.isForeignKey = _
  unfold columnArguments
  simp only [List.filter_append, hname, htype, hreference, hkey, hunique, hdefault, hcomment,
    List.nil_append, List.append_nil]
  unfold referenceArgument
  rw [hon, if_neg Bool.false_ne_true]

end Declarative

/-- An assignment states every key, in order. -/
theorem TableObjects.foreignKeys_blockOf (dialect : Dialect) {options : Options} (table : Table)
    (name : String) (hon : options.noConstraints = false) :
    (blockOf dialect options table name).foreignKeys =
      table.foreignKeys.map (Constraint.statement dialect) := by
  have hkeys : ∀ key ∈ table.foreignKeys, key.isForeignKey = true := Table.isForeignKey_of_mem
  have hcolumns : (table.columns.map (columnItem table dialect options)).filter
      Expr.isForeignKey = [] :=
    filter_isForeignKey_eq_nil (List.forall_mem_map.2 fun _ _ => rfl)
  have hconstraints : (constraintItems table dialect options).filter Expr.isForeignKey =
      table.foreignKeys.map (Constraint.statement dialect) := by
    unfold constraintItems
    rw [hon, if_neg Bool.false_ne_true, Constraint.filterMap_foreignKeyConstraint? hkeys,
      List.filter_append, List.filter_append, Constraint.filter_statements hkeys,
      filter_isForeignKey_eq_nil (List.forall_mem_map.2 fun _ _ => rfl),
      filter_isForeignKey_eq_nil (List.forall_mem_map.2 fun _ _ => rfl), List.append_nil,
      List.append_nil]
  have hindexes : (indexItems table options).filter Expr.isForeignKey = [] := by
    refine filter_isForeignKey_eq_nil fun e he => ?_
    obtain ⟨index, rfl⟩ := exists_of_mem_indexItems he
    rfl
  have hcomment := filter_isForeignKey_eq_nil (isForeignKey_commentArguments table.comment options)
  have hschema : (schemaItems table dialect).filter Expr.isForeignKey = [] := by
    refine filter_isForeignKey_eq_nil fun e he => ?_
    obtain ⟨owner, rfl⟩ := exists_of_mem_schemaItems he
    rfl
  show (itemsOf table dialect options).filter Expr.isForeignKey = _
  unfold itemsOf
  simp only [List.filter_append, hcolumns, hconstraints, hindexes, hcomment, hschema,
    List.nil_append, List.append_nil]

/-! ## Every foreign key, once -/

section Agreement

variable {dialect : Dialect} {options : Options} {table : Table}

theorem Table.columns_of_isSole {key : Constraint} (h : table.isSole key = true) :
    ∃ column, key.columns = [column] :=
  List.length_eq_one_iff.1 (eq_of_beq (Bool.and_eq_true_iff.1 h).1)

/-- Whether a key is alone depends on its columns only. -/
theorem Table.isSole_congr {key other : Constraint} (h : key.columns = other.columns) :
    table.isSole key = table.isSole other := by
  unfold isSole
  rw [h]

theorem Table.statedKeys_blockOf (dialect : Dialect) (table : Table) (name : String)
    (hon : options.noConstraints = false) :
    table.statedKeys (TableObjects.blockOf dialect options table name) =
      table.foreignKeys.map fun key => (key, key.statement dialect) := by
  unfold statedKeys
  rw [TableObjects.foreignKeys_blockOf dialect table name hon, List.zip_eq_zipWith,
    List.zipWith_map_right, List.zipWith_self]

/-- Keys with the same statement have the same columns. -/
theorem Constraint.columns_eq_of_statement_eq {key other : Constraint}
    (hkey : key.isForeignKey = true) (hother : other.isForeignKey = true)
    (h : key.statement dialect = other.statement dialect) : key.columns = other.columns := by
  have hcolumns : Expr.literals key.columns = Expr.literals other.columns := by
    rw [← (isStatedBy_statement dialect hkey).localColumns, h,
      (isStatedBy_statement dialect hother).localColumns]
  exact List.map_injective_iff.2 (fun _ _ he => Expr.literal.inj he) hcolumns

/-- The key that is stated on a column is a foreign key of the table with that column alone. -/
theorem Table.of_columnForeignKey? {column : String} {key : Constraint}
    (h : table.columnForeignKey? column = some key) :
    key ∈ table.foreignKeys ∧ key.columns = [column] := by
  have hmem : key ∈ table.foreignKeys.filter fun key =>
      table.isSole key && key.columns == [column] := by
    rw [filter_isSole_eq, h]
    exact List.mem_singleton_self key
  obtain ⟨hkey, hon⟩ := List.mem_filter.1 hmem
  exact ⟨hkey, eq_of_beq (Bool.and_eq_true_iff.1 hon).2⟩

/-- The attribute of a column states what is alone on it, as the assignment does. -/
theorem Declarative.forall₂_foreignKeys_attributeOf (hwell : table.WellFormed)
    (hon : options.noConstraints = false) (column : Column) (name variableName : String) :
    List.Forall₂ (fun stated e => e.calls "ForeignKey" = true ∧ e.SameReference stated.2)
      ((table.statedKeys (TableObjects.blockOf dialect options table variableName)).filter
        fun stated => table.isSole stated.1 && stated.1.columns == [column.name])
      (attributeOf table dialect options column name).foreignKeys := by
  have hsole := table.filter_isSole_eq column.name
  rw [Table.statedKeys_blockOf dialect table variableName hon, List.filter_map,
    foreignKeys_attributeOf dialect table name hon]
  simp only [Function.comp_def]
  rw [hsole]
  cases hfound : table.columnForeignKey? column.name with
  | none => exact .nil
  | some key =>
    obtain ⟨hkey, hcolumns⟩ := Table.of_columnForeignKey? hfound
    obtain ⟨target, htarget, hstatement⟩ :=
      Constraint.exists_statement_eq dialect (Table.isForeignKey_of_mem key hkey)
    have hlength : target.columns.length = 1 := by
      rw [(hwell.constraints key (List.mem_of_mem_filter hkey)).length_eq target htarget, hcolumns]
      rfl
    simp only [Option.bind_some, htarget, Option.map_some, Option.toList_some, List.map_cons,
      List.map_nil]
    refine .cons ⟨rfl, ?_⟩ .nil
    rw [hstatement]
    exact Constraint.sameReference_columnReference key hlength

/-- The class and the assignment of a table state its foreign keys as they should. -/
theorem statesForeignKeys (hwell : table.WellFormed) (hon : options.noConstraints = false)
    (name variableName : String) :
    StatesForeignKeys dialect table (Declarative.classOf dialect options table name)
      (TableObjects.blockOf dialect options table variableName) := by
  have hassigned := TableObjects.foreignKeys_blockOf dialect table variableName hon
  have hstated := Table.statedKeys_blockOf dialect table variableName hon
  have hclass := Declarative.foreignKeys_classOf dialect table name hon
  have hkeys : ∀ key ∈ table.foreignKeys, key.isForeignKey = true := Table.isForeignKey_of_mem
  refine { assigned := ?_, onTable := ?_, apart := ?_, onColumns := ?_, once := ?_,
           somewhere := ?_ }
  · -- assigned
    rw [hassigned, List.forall₂_map_right_iff, List.forall₂_same]
    exact fun key hkey => Constraint.isStatedBy_statement dialect (hkeys key hkey)
  · -- onTable
    rw [hclass, hstated, List.filter_map, List.map_map]
    rfl
  · -- apart
    intro stated hmem hsole hin
    rw [hstated] at hmem
    obtain ⟨key, hkey, rfl⟩ := List.mem_map.1 hmem
    rw [hclass] at hin
    obtain ⟨other, hother, he⟩ := List.mem_map.1 hin
    obtain ⟨hother, hnot⟩ := List.mem_filter.1 hother
    have hcolumns := Constraint.columns_eq_of_statement_eq (hkeys other hother) (hkeys key hkey) he
    rw [Table.isSole_congr hcolumns, hsole] at hnot
    cases hnot
  · -- onColumns
    refine forall₂_zipWith_right (fun column label => ?_) ?_
    · exact Declarative.forall₂_foreignKeys_attributeOf hwell hon column label variableName
    · exact (Declarative.length_attributeNames table).symm
  · -- once
    intro a ha
    obtain ⟨column, _, label, _, rfl⟩ := exists_of_mem_zipWith ha
    rw [Declarative.foreignKeys_attributeOf dialect table label hon]
    exact Option.length_toList_le
  · -- somewhere
    intro key hkey hsole
    obtain ⟨column, hcolumn⟩ := Table.columns_of_isSole hsole
    have hmem : column ∈ table.columnNames :=
      hwell.constraint_columns key (List.mem_of_mem_filter hkey) column (by simp [hcolumn])
    obtain ⟨found, hfound, rfl⟩ := List.mem_map.1 hmem
    exact ⟨found, hfound, hcolumn⟩

end Agreement

/-- Every table of a schema has its class and its assignment in the two texts of the schema, and
these state its foreign keys as they should. -/
theorem statesForeignKeys_generate [Holding] {schema : Schema} {options : Options}
    (hwell : schema.WellFormed) (hon : options.noConstraints = false) :
    List.Forall₂ (fun table block =>
        block.lines.map String.toList <:+:
            linesOf (generate .declarative schema options).output.toList ∧
          ∃ assignment, (table, assignment) ∈
              (Dependency.sortTables schema.tables).zip (TableObjects.blocks schema options) ∧
            assignment.lines.map String.toList <:+:
              linesOf (generate .tables schema options).output.toList ∧
            StatesForeignKeys schema.dialect table block assignment)
      schema.tables (Declarative.classes schema options) := by
  exact schema.writtenAs options fun table htable name variableName =>
    statesForeignKeys (hwell.tables table htable) hon name variableName

/-- Shipments refer to their buyer on the column, and to their seller twice in the same words. One
key has both columns, and one column stands twice in the table. -/
def shipments : Table :=
  { schema := "trade"
    name := "shipments"
    columns := [
      { name := "buyer", position := 1, typeName := "int4" },
      { name := "seller", position := 2, typeName := "int4" },
      { name := "buyer", position := 4, typeName := "int4" }]
    constraints := [
      ⟨"to_buyer", .foreignKey ⟨"public", "people", ["id"], "no action", "cascade"⟩, ["buyer"]⟩,
      ⟨"to_seller", .foreignKey ⟨"trade", "shops", ["id"], "", ""⟩, ["seller"]⟩,
      ⟨"to_seller", .foreignKey ⟨"trade", "shops", ["id"], "", ""⟩, ["seller"]⟩,
      ⟨"to_deal", .foreignKey ⟨"trade", "deals", ["to", "by"], "", ""⟩, ["buyer", "seller"]⟩] }

/-- A schema of shipments alone. -/
def trade : Schema :=
  { tables := [shipments] }

/-- The buyer is stated on both columns of that name, the other keys on the table. -/
theorem statesForeignKeys_trade :
    trade.WellFormed ∧ ({} : Options).noConstraints = false ∧
      shipments.foreignKeys.map shipments.isSole = [true, false, false, false] ∧
      List.Forall₂ (fun table block =>
          block.lines.map String.toList <:+:
              linesOf (generate .declarative trade {}).output.toList ∧
            ∃ assignment, (table, assignment) ∈
                (Dependency.sortTables trade.tables).zip (TableObjects.blocks trade {}) ∧
              assignment.lines.map String.toList <:+:
                linesOf (generate .tables trade {}).output.toList ∧
              StatesForeignKeys trade.dialect table block assignment)
        trade.tables (Declarative.classes trade {}) ∧
      (Declarative.classes trade {}).map (fun block => block.attributes.map fun a =>
        a.foreignKeys.map Expr.render) =
        [[["ForeignKey('people.id', ondelete='CASCADE')"], [],
          ["ForeignKey('people.id', ondelete='CASCADE')"]]] := by
  have hwell : trade.WellFormed := by decide
  exact ⟨hwell, rfl, by decide, statesForeignKeys_generate hwell rfl, by decide +kernel⟩

end SchemaCodegen
