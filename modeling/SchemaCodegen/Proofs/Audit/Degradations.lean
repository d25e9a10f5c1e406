import SchemaCodegen.Proofs.Audit.Findings
import SchemaCodegen.Proofs.Audit.UnknownTypes
import SchemaCodegen.Proofs.Dependency.Circles
import SchemaCodegen.Proofs.Dependency.Targets
import SchemaCodegen.Proofs.Style.Placement
import SchemaCodegen.Schema.Invariant

/-!
# Proofs: findings are what the generated code falls short of

An audit looks at a schema, the generators write it, and neither asks the other. Main statement: the
findings tell exactly what the generated code cannot express. Columns of unknown types are those
written with the type for unknown ones; classes without a key are remarked on for the tables without
one; references lead nowhere that give no edge; and there is a circle wherever a table is assigned
before one that it refers to.
-/

namespace SchemaCodegen

open SchemaCodegen.Code
open SchemaCodegen.Text (Holding)

/-! ## Classes without a key -/

/-- Whether an event remarks on a class without a primary key. -/
def Event.isClassWithoutKey : Event → Bool
  | .classWithoutKey _ _ => true
  | _ => false

/-- The tables without a primary key, each with its class. -/
def Declarative.keylessClasses (schema : Schema) (options : Options) : List (Table × ClassBlock) :=
  (schema.tables.zip (classes schema options)).filter fun pair => pair.1.primaryKeyColumns.isEmpty

section Keyless

variable (schema : Schema) (options : Options)

theorem Declarative.map_fst_keylessClasses :
    (keylessClasses schema options).map Prod.fst =
      schema.tables.filter fun table => table.primaryKeyColumns.isEmpty := by
  have hfst : (schema.tables.zip (classes schema options)).map Prod.fst = schema.tables :=
    List.map_fst_zip (length_classes schema options).ge
  have hfilter := congrArg
    (List.filter fun table : Table => table.primaryKeyColumns.isEmpty) hfst
  rwa [List.filter_map] at hfilter

theorem Declarative.classesWithoutKey_eq :
    classesWithoutKey schema options =
      (keylessClasses schema options).map fun pair => (pair.2.name, pair.1.qualifiedName) := by
  unfold classesWithoutKey keylessClasses classes
  rw [zip_zipWith_right, List.filter_map, List.map_map, Audit.filterMap_ite_eq]
  rfl

/-- The remarks on classes without a key. -/
theorem filter_generationEvents [Holding] :
    (generationEvents .declarative schema options).filter Event.isClassWithoutKey =
      (Declarative.keylessClasses schema options).map fun pair =>
        .classWithoutKey pair.2.name pair.1.qualifiedName := by
  have hfindings : (auditEvents schema).filter Event.isClassWithoutKey = [] := by
    refine List.filter_eq_nil_iff.2 fun event hmem => ?_
    obtain ⟨finding, _, rfl⟩ := List.mem_map.1 hmem
    exact Bool.false_ne_true
  have hremarks : ((Declarative.classesWithoutKey schema options).map fun pair =>
      Event.classWithoutKey pair.1 pair.2).filter Event.isClassWithoutKey =
        (Declarative.classesWithoutKey schema options).map fun pair =>
          Event.classWithoutKey pair.1 pair.2 := by
    refine List.filter_eq_self.2 fun event hmem => ?_
    obtain ⟨pair, _, rfl⟩ := List.mem_map.1 hmem
    rfl
  unfold generationEvents
  rw [List.filter_append, hfindings, List.nil_append]
  dsimp only
  rw [hremarks, Declarative.classesWithoutKey_eq, List.map_map]
  rfl

end Keyless

/-! ## Findings and generated code -/

namespace Audit

/-- The findings about a schema say what the code generated from it falls short of. -/
structure FindingsAgree [Holding] (schema : Schema) (options : Options) : Prop where
  /-- A column is remarked on exactly if its type expression mentions the type for unknown ones. -/
  types : withCodes schema ["UNSUPPORTED_COLUMN_TYPE"] = schema.tables.flatMap fun table =>
    (table.columns.filter fun column =>
      mentions (ColumnType.ofColumn column schema.dialect).typeExpr.render "NullType").map
        fun column => unsupportedType table column (ColumnType.ofColumn column schema.dialect)
  /-- That type is imported, in either style, exactly if there is such a remark. -/
  imports : ∀ style : Style,
    IsImported (generate style schema options).output.toList "NullType" ↔
      withCodes schema ["UNSUPPORTED_COLUMN_TYPE"] ≠ []
  /-- Tables are remarked on exactly if their classes are without a key. -/
  keys : withCodes schema ["MISSING_PRIMARY_KEY", "VIEW_WITHOUT_PRIMARY_KEY"] =
    (Declarative.keylessClasses schema options).map fun pair => missingPrimaryKey pair.1
  /-- For the same tables, in the same order, the declarative style reports their classes. -/
  reports : (generationEvents .declarative schema options).filter Event.isClassWithoutKey =
    (Declarative.keylessClasses schema options).map fun pair =>
      .classWithoutKey pair.2.name pair.1.qualifiedName
  /-- A foreign key is remarked on exactly if its table is not in the schema. -/
  targets : withCodes schema ["FK_TARGET_UNRESOLVED"] =
    ((allReferences schema).filter fun reference => !resolves schema reference.2.2).map
      fun reference => unresolvedTarget reference.1 reference.2.1 reference.2.2
  /-- That is so exactly if it does not refer to its own table and gives no edge. -/
  edges : ∀ position table, schema.tables[position]? = some table →
    ∀ constraint ∈ table.constraints, ∀ target, constraint.target? = some target →
      (resolves schema target = false ↔
        (target.schema, target.table) ≠ table.key ∧
          Dependency.edgesOf schema.tables position table constraint = [])
  /-- The edges of a table are those of its foreign keys. -/
  graph : ∀ position table, schema.tables[position]? = some table →
    ∀ node, (Dependency.graphOf schema.tables).Edge position node ↔
      ∃ constraint ∈ table.constraints,
        node ∈ Dependency.edgesOf schema.tables position table constraint
  /-- A circle is remarked on exactly if a table is assigned before another that it refers to. -/
  circles : withCodes schema ["CIRCULAR_DEPENDENCY"] ≠ [] ↔
    ∃ a b, Dependency.Refers schema.tables a b ∧ TableObjects.PlacesBefore schema options a b

section Parts

variable (schema : Schema) (options : Options)

theorem withCodes_unsupported_ne_nil_iff [Holding] :
    withCodes schema ["UNSUPPORTED_COLUMN_TYPE"] ≠ [] ↔ schema.HasUnknownType := by
  rw [withCodes_unsupported, ne_eq, List.flatMap_eq_nil_iff]
  unfold Schema.HasUnknownType
  push Not
  simp only [ne_eq, List.map_eq_nil_iff, List.filter_eq_nil_iff]
  push Not
  rfl

theorem withCodes_missingKey_eq [Holding] :
    withCodes schema ["MISSING_PRIMARY_KEY", "VIEW_WITHOUT_PRIMARY_KEY"] =
      (Declarative.keylessClasses schema options).map fun pair => missingPrimaryKey pair.1 := by
  rw [withCodes_missingKey, ← Declarative.map_fst_keylessClasses schema options, List.map_map]
  rfl

theorem resolves_eq_false_iff (target : ForeignKey) :
    resolves schema target = false ↔
      (target.schema, target.table) ∉ schema.tables.map Table.key := by
  unfold resolves
  rw [Bool.eq_false_iff, ne_eq, List.contains_iff_mem]

variable {schema} in
theorem withCodes_circular_ne_nil_iff [Holding] (hkeys : (schema.tables.map Table.key).Nodup) :
    withCodes schema ["CIRCULAR_DEPENDENCY"] ≠ [] ↔
      ∃ a b, Dependency.Refers schema.tables a b ∧
        TableObjects.PlacesBefore schema options a b := by
  rw [withCodes_circular, ne_eq, List.map_eq_nil_iff]
  simp only [TableObjects.placesBefore_iff]
  exact Dependency.findCycles_ne_nil_iff hkeys

end Parts

/-- The findings about a schema agree with the code that is generated from it, provided that its
tables are told apart by their keys. -/
theorem findingsAgree_full [Holding] {schema : Schema} (hkeys : (schema.tables.map Table.key).Nodup)
    (options : Options) : FindingsAgree schema options := by
  refine { types := ?_, imports := ?_, keys := withCodes_missingKey_eq schema options,
           reports := filter_generationEvents schema options,
           targets := withCodes_unresolved schema, edges := ?_, graph := ?_,
           circles := withCodes_circular_ne_nil_iff options hkeys }
  · -- types
    simp only [ColumnType.mentions_nullType]
    exact withCodes_unsupported schema
  · -- imports
    intro style
    rw [withCodes_unsupported_ne_nil_iff]
    exact Style.isImported_nullType_iff schema options style
  · -- edges
    intro position table hat constraint _ target htarget
    rw [resolves_eq_false_iff]
    exact Dependency.not_mem_keys_iff hat htarget
  · -- graph
    intro position table hat node
    exact Dependency.edge_graphOf_iff_mem_edgesOf hat

/-- Orders and payments refer to each other, payments also to themselves, and orders to a depot that
is not in the schema; the place of an order is of an unknown type and orders have no key. -/
def warehouse : Schema :=
  { tables :=
      [{ name := "orders"
         columns :=
          [{ name := "payment", position := 1, typeName := "int4" },
           { name := "depot", position := 2, typeName := "int4" },
           { name := "place", position := 3, typeName := "_polygon", dataType := "ARRAY" }]
         constraints :=
          [⟨"orders_payment", .foreignKey ⟨"public", "payments", ["id"], "", ""⟩, ["payment"]⟩,
           ⟨"orders_depot", .foreignKey ⟨"stock", "depots", ["id"], "", ""⟩, ["depot"]⟩] },
       { name := "payments"
         columns :=
          [{ name := "id", position := 1, typeName := "int4", nullable := false },
           { name := "parent", position := 2, typeName := "int4" },
           { name := "order", position := 3, typeName := "int4" }]
         constraints :=
          [⟨"payments_pkey", .primaryKey, ["id"]⟩,
           ⟨"payments_parent", .foreignKey ⟨"public", "payments", ["id"], "", ""⟩, ["parent"]⟩,
           ⟨"payments_order", .foreignKey ⟨"public", "orders", ["payment"], "", ""⟩,
            ["order"]⟩] }] }

theorem findingsAgree_warehouse :
    warehouse.WellFormed ∧ FindingsAgree warehouse {} ∧
      (full warehouse).map Finding.code = ["FK_TARGET_UNRESOLVED", "UNSUPPORTED_COLUMN_TYPE",
        "MISSING_PRIMARY_KEY", "CIRCULAR_DEPENDENCY"] := by
  have hwell : warehouse.WellFormed := by decide
  exact ⟨hwell, findingsAgree_full hwell.keys {}, by decide +kernel⟩

end Audit

end SchemaCodegen
