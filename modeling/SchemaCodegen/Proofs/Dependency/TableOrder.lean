import Mathlib.Logic.Relation
import SchemaCodegen.Proofs.Dependency.Leaders

/-!
# Proofs: dependency order of tables

What the order of a graph means for the tables of a list. Main statement: the ordered tables are the
listed ones, referenced tables first wherever that is possible and the tables of one component
together.
-/

namespace SchemaCodegen.Dependency

open Relation

/-! ## References between tables -/

/-- A foreign key of `a` refers to another listed table `b`. -/
def Refers (tables : List Table) (a b : Table) : Prop :=
  a ∈ tables ∧ b ∈ tables ∧ a ≠ b ∧ ∃ constraint ∈ a.constraints, ∃ target : ForeignKey,
    constraint.kind = .foreignKey target ∧ (target.schema, target.table) = b.key

/-- Foreign keys of listed tables lead from `a` to `b`. -/
def Leads (tables : List Table) (a b : Table) : Prop :=
  ReflTransGen (Refers tables) a b

/-- The listed tables to which `a` leads and which lead to `a`, in the order of the list. -/
noncomputable def componentOf (tables : List Table) (a : Table) : List Table :=
  open Classical in tables.filter fun b => Leads tables a b ∧ Leads tables b a

variable {tables : List Table}

theorem mem_componentOf {a b : Table} :
    b ∈ componentOf tables a ↔ b ∈ tables ∧ Leads tables a b ∧ Leads tables b a := by
  simp [componentOf]

/-- An order of the listed tables in which references lead to earlier tables wherever that is
possible, and the tables of a component stand together. -/
structure IsDependencyOrder (tables ordered : List Table) : Prop where
  /-- The ordered tables are the listed ones, each as often as it is listed. -/
  perm : ordered.Perm tables
  /-- A referenced table stands before the one that refers to it, unless it leads back to it. -/
  before : ∀ a b, Refers tables a b → ¬ Leads tables b a → [b, a].Sublist ordered
  /-- The tables of a component stand together, in the order of the list. -/
  together : ∀ a ∈ tables, componentOf tables a <:+: ordered

/-! ## Positions -/

/-- Tables that are told apart by their keys stand at one position each. -/
theorem position_inj (h : (tables.map Table.key).Nodup) {i j : Nat} {a : Table}
    (hi : tables[i]? = some a) (hj : tables[j]? = some a) : i = j := by
  have hlt := (List.getElem?_eq_some_iff.1 hi).1
  exact (List.getElem?_inj hlt h.of_map).1 (hi.trans hj.symm)

/-- A table is found at its position by its key. -/
theorem positionOf?_eq_some_iff (h : (tables.map Table.key).Nodup) {key : String × String}
    {j : Nat} : positionOf? tables key = some j ↔ ∃ b, tables[j]? = some b ∧ b.key = key := by
  rw [positionOf?, List.findIdx?_eq_some_iff_getElem]
  constructor
  · rintro ⟨hj, hkey, _⟩
    exact ⟨tables[j], List.getElem?_eq_getElem hj, beq_iff_eq.1 hkey⟩
  · rintro ⟨b, hb, rfl⟩
    obtain ⟨hj, rfl⟩ := List.getElem?_eq_some_iff.1 hb
    refine ⟨hj, beq_self_eq_true _, fun i hi hkey => ?_⟩
    have hil : i < (tables.map Table.key).length := by
      rw [List.length_map]
      omega
    have hkeys : (tables.map Table.key)[i]? = (tables.map Table.key)[j]? := by
      rw [List.getElem?_map, List.getElem?_map, List.getElem?_eq_getElem hj,
        List.getElem?_eq_getElem (Nat.lt_trans hi hj), Option.map_some, Option.map_some,
        beq_iff_eq.1 hkey]
    have := (List.getElem?_inj hil h).1 hkeys
    omega

/-- The keys that a table refers to are those of the targets of its foreign keys. -/
theorem mem_referencedKeys {a : Table} {key : String × String} :
    key ∈ referencedKeys a ↔ ∃ constraint ∈ a.constraints, ∃ target : ForeignKey,
      constraint.kind = .foreignKey target ∧ (target.schema, target.table) = key := by
  have htarget : ∀ (constraint : Constraint) (target : ForeignKey),
      constraint.target? = some target ↔ constraint.kind = .foreignKey target := by
    intro constraint target
    rw [Constraint.target?]
    split
    · next e => simp [e]
    · next hne => simpa using hne target
  simp [referencedKeys, htarget]

/-- The edges of the reference graph are the references between the tables. -/
theorem edge_graphOf (h : (tables.map Table.key).Nodup) {i j : Nat} :
    (graphOf tables).Edge i j ↔
      ∃ a b, tables[i]? = some a ∧ tables[j]? = some b ∧ Refers tables a b := by
  rw [Graph.Edge, Graph.next, graphOf, List.getElem?_mapIdx]
  cases hi : tables[i]? with
  | none => simp
  | some a =>
    simp only [Option.map_some, Option.getD_some, referencesOf, List.mem_filter, List.mem_range,
      Bool.and_eq_true, bne_iff_ne, List.contains_iff_mem, List.mem_filterMap,
      positionOf?_eq_some_iff h, Option.some.injEq]
    constructor
    · rintro ⟨_, hne, key, hkey, b, hb, rfl⟩
      refine ⟨a, b, rfl, hb, List.mem_of_getElem? hi, List.mem_of_getElem? hb, ?_,
        mem_referencedKeys.1 hkey⟩
      rintro rfl
      exact hne (position_inj h hb hi)
    · rintro ⟨_, b, rfl, hb, _, _, hne, href⟩
      refine ⟨(List.getElem?_eq_some_iff.1 hb).1, ?_, b.key, mem_referencedKeys.2 href, b, hb, rfl⟩
      rintro rfl
      exact hne (Option.some.inj (hi.symm.trans hb))

theorem length_graphOf : (graphOf tables).length = tables.length := by
  simp [graphOf]

theorem isClosed_graphOf : (graphOf tables).isClosed := by
  simp only [Graph.isClosed, List.all_eq_true, decide_eq_true_eq, length_graphOf]
  intro nodes hnodes j hj
  obtain ⟨i, hi, rfl⟩ := List.getElem_of_mem hnodes
  simp only [graphOf, List.getElem_mapIdx, referencesOf, List.mem_filter, List.mem_range] at hj
  exact hj.1

/-- What a node of the reference graph reaches is what its table leads to. -/
theorem leads_of_reaches (h : (tables.map Table.key).Nodup) {i j : Nat} {a : Table}
    (hi : tables[i]? = some a) (hr : (graphOf tables).Reaches i j) :
    ∃ b, tables[j]? = some b ∧ Leads tables a b := by
  induction hr with
  | refl => exact ⟨a, hi, .refl⟩
  | tail _ he ih =>
    obtain ⟨b, hb, hab⟩ := ih
    obtain ⟨b', c, hb', hc, href⟩ := (edge_graphOf h).1 he
    rw [hb, Option.some.injEq] at hb'
    subst hb'
    exact ⟨c, hc, hab.tail href⟩

theorem reaches_of_leads (h : (tables.map Table.key).Nodup) {i : Nat} {a b : Table}
    (hi : tables[i]? = some a) (hl : Leads tables a b) :
    ∃ j, tables[j]? = some b ∧ (graphOf tables).Reaches i j := by
  induction hl with
  | refl => exact ⟨i, hi, .refl⟩
  | @tail b c _ href ih =>
    obtain ⟨j, hj, hr⟩ := ih
    obtain ⟨k, hk⟩ := List.mem_iff_getElem?.1 href.2.1
    exact ⟨k, hk, hr.tail ((edge_graphOf h).2 ⟨b, c, hj, hk, href⟩)⟩

/-- Nodes reach each other as their tables lead to each other. -/
theorem reaches_graphOf (h : (tables.map Table.key).Nodup) {i j : Nat} {a b : Table}
    (hi : tables[i]? = some a) (hj : tables[j]? = some b) :
    (graphOf tables).Reaches i j ↔ Leads tables a b := by
  constructor
  · intro hr
    obtain ⟨b', hb', hl⟩ := leads_of_reaches h hi hr
    rw [hj, Option.some.injEq] at hb'
    exact hb' ▸ hl
  · intro hl
    obtain ⟨k, hk, hr⟩ := reaches_of_leads h hi hl
    exact position_inj h hk hj ▸ hr

/-! ## Tables at positions -/

theorem tablesAt_range (tables : List Table) :
    tablesAt tables (List.range tables.length) = tables := by
  induction tables with
  | nil => rfl
  | cons a tables ih =>
    rw [tablesAt, List.length_cons, List.range_succ_eq_map, List.filterMap_cons,
      List.filterMap_map]
    exact congrArg (a :: ·) ih

/-- The positions that a filter of tables keeps give the filtered list. -/
theorem tablesAt_filter_range {p : Nat → Bool} {q : Table → Bool}
    (h : ∀ i a, tables[i]? = some a → p i = q a) :
    tablesAt tables ((List.range tables.length).filter p) = tables.filter q := by
  have hall := congrArg (List.filter q) (tablesAt_range tables)
  rw [← hall, tablesAt, tablesAt, List.filterMap_filter, List.filter_filterMap]
  refine List.filterMap_congr fun i _ => ?_
  cases hi : tables[i]? with
  | none => simp
  | some a => simp [h i a hi, Option.filter]

/-- The tables at the members of a component are a component. -/
theorem tablesAt_membersOf (h : (tables.map Table.key).Nodup) {l : Nat} {a : Table}
    (hl : (graphOf tables).IsLeader l) (hc : ∃ i, tables[i]? = some a ∧
      (graphOf tables).Connected l i) :
    tablesAt tables (membersOf (graphOf tables).leaders l) = componentOf tables a := by
  classical
  obtain ⟨i, hi, hc⟩ := hc
  rw [membersOf, nodesNumbered, Graph.length_leaders, length_graphOf, componentOf]
  refine tablesAt_filter_range fun j b hj => ?_
  have hjl : j < (graphOf tables).length := by
    rw [length_graphOf]
    exact (List.getElem?_eq_some_iff.1 hj).1
  rw [Bool.eq_iff_iff, beq_iff_eq, decide_eq_true_eq, Graph.leaders_eq_some_iff hjl,
    ← reaches_graphOf h hi hj, ← reaches_graphOf h hj hi]
  exact ⟨fun hlj => ⟨hc.2.trans hlj.2.1, hlj.2.2.trans hc.1⟩,
    fun hij => ⟨hl, hc.trans hij⟩⟩

/-- Every listed table belongs to the component of a leader. -/
theorem exists_leader_of_mem (h : (tables.map Table.key).Nodup) {a : Table} (ha : a ∈ tables) :
    ∃ l, (graphOf tables).IsLeader l ∧
      tablesAt tables (membersOf (graphOf tables).leaders l) = componentOf tables a := by
  obtain ⟨i, hi⟩ := List.mem_iff_getElem?.1 ha
  have hil : i < (graphOf tables).length := by
    rw [length_graphOf]
    exact (List.getElem?_eq_some_iff.1 hi).1
  obtain ⟨l, _, hl, hc⟩ := (graphOf tables).exists_leader hil
  exact ⟨l, hl, tablesAt_membersOf h hl ⟨i, hi, hc⟩⟩

/-! ## The order of the tables -/

/-- A referenced table stands before the one that refers to it, unless it leads to it. -/
theorem sortTables_of_refers (h : (tables.map Table.key).Nodup) {a b : Table}
    (href : Refers tables a b) : [b, a].Sublist (sortTables tables) ∨ Leads tables b a := by
  obtain ⟨i, hi⟩ := List.mem_iff_getElem?.1 href.1
  obtain ⟨j, hj⟩ := List.mem_iff_getElem?.1 href.2.1
  have he : (graphOf tables).Edge i j := (edge_graphOf h).2 ⟨a, b, hi, hj, href⟩
  rcases Graph.order_of_edge isClosed_graphOf he with hs | hr
  · have hpair : tablesAt tables [j, i] = [b, a] := by simp [tablesAt, hi, hj]
    exact Or.inl (hpair ▸ hs.filterMap _)
  · exact Or.inr ((reaches_graphOf h hj hi).1 hr)

/-- Every listed table stands once in the order. -/
theorem sortTables_perm (tables : List Table) : (sortTables tables).Perm tables := by
  have hp := (graphOf tables).order_perm
  rw [length_graphOf] at hp
  have hall := hp.filterMap (tables[·]?)
  rwa [show List.filterMap (tables[·]?) (List.range tables.length) = tables from
    tablesAt_range tables] at hall

/-- A component stands together in the order, its tables in the order of the list. -/
theorem componentOf_infix_sortTables (h : (tables.map Table.key).Nodup) {a : Table}
    (ha : a ∈ tables) : componentOf tables a <:+: sortTables tables := by
  obtain ⟨l, hl, hmembers⟩ := exists_leader_of_mem h ha
  obtain ⟨before, after, he⟩ := Graph.membersOf_infix_order hl
  refine ⟨tablesAt tables before, tablesAt tables after, ?_⟩
  rw [← hmembers, sortTables, ← he, tablesAt, tablesAt, tablesAt, tablesAt, List.filterMap_append,
    List.filterMap_append]

theorem isDependencyOrder_of_sortTables_eq (h : (tables.map Table.key).Nodup)
    {ordered : List Table} (hordered : sortTables tables = ordered) :
    IsDependencyOrder tables ordered := by
  subst hordered
  refine { perm := sortTables_perm tables, before := ?_, together := ?_ }
  · -- before
    intro a b href hback
    exact (sortTables_of_refers h href).resolve_right hback
  · -- together
    intro a ha
    exact componentOf_infix_sortTables h ha

/-- Tables that are told apart by their keys are brought into dependency order. -/
theorem isDependencyOrder_sortTables (h : (tables.map Table.key).Nodup) :
    IsDependencyOrder tables (sortTables tables) :=
  isDependencyOrder_of_sortTables_eq h rfl

/-! ## Tables changed one by one -/

section Change

variable {change : Table → Table} (hkey : ∀ table, (change table).key = table.key)
  (hreferenced : ∀ table, referencedKeys (change table) = referencedKeys table)

include hkey hreferenced

/-- A change that keeps keys and references keeps the graph. -/
theorem graphOf_map (tables : List Table) : graphOf (tables.map change) = graphOf tables := by
  have hposition : positionOf? (tables.map change) = positionOf? tables := by
    funext key
    unfold positionOf?
    rw [List.findIdx?_map]
    simp only [Function.comp_def, hkey]
  refine List.ext_getElem? fun position => ?_
  unfold graphOf
  rw [List.getElem?_mapIdx, List.getElem?_mapIdx, List.getElem?_map, Option.map_map]
  congr 1
  funext table
  simp only [Function.comp_apply, referencesOf, hposition, hreferenced, List.length_map]

/-- A change that keeps keys and references keeps the order. -/
theorem sortTables_map (tables : List Table) :
    sortTables (tables.map change) = (sortTables tables).map change := by
  unfold sortTables tablesAt
  rw [graphOf_map hkey hreferenced, List.map_filterMap]
  simp only [List.getElem?_map]

end Change

/-- Orders and payments refer to each other, and orders also to customers and to a table that is not
listed; customers refer to themselves. -/
def shop : List Table :=
  [ { name := "orders", constraints :=
        [⟨"orders_payment", .foreignKey ⟨"public", "payments", ["id"], "", ""⟩, ["payment"]⟩,
         ⟨"orders_customer", .foreignKey ⟨"public", "customers", ["id"], "", ""⟩, ["customer"]⟩,
         ⟨"orders_depot", .foreignKey ⟨"stock", "depots", ["id"], "", ""⟩, ["depot"]⟩] },
    { name := "customers", constraints :=
        [⟨"customers_parent", .foreignKey ⟨"public", "customers", ["id"], "", ""⟩, ["parent"]⟩] },
    { name := "payments", constraints :=
        [⟨"payments_order", .foreignKey ⟨"public", "orders", ["id"], "", ""⟩, ["order"]⟩] }]

/-- Customers come first, then the circle of orders and payments. -/
theorem isDependencyOrder_shop :
    (shop.map Table.key).Nodup ∧ IsDependencyOrder shop (sortTables shop) ∧
      (sortTables shop).map Table.name = ["customers", "orders", "payments"] :=
  ⟨by decide, isDependencyOrder_sortTables (by decide), by decide⟩

end SchemaCodegen.Dependency
