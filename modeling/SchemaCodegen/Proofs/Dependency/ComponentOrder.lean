import SchemaCodegen.Proofs.Dependency.Circles
import SchemaCodegen.Proofs.Dependency.Numbering

/-!
# Proofs: the recursive definition of the order of tables

The order of tables is that of a recursive definition over their components. Components are visited
in the order of their first tables; one that was not visited yet is written down, its tables in the
order of the list, after the components that it refers to were visited in turn. So the order depends
on nothing but the order of the keys and on which listed tables refer to which.
-/

namespace SchemaCodegen.Dependency

variable {tables : List Table}

/-! ## The recursive definition -/

/-- The components of the listed tables, in the order of their first tables. -/
noncomputable def components (tables : List Table) : List (List Table) :=
  open Classical in
  (tables.filter fun a => (componentOf tables a).head? = some a).map (componentOf tables)

/-- A table of one component refers to a table of another one. -/
def ComponentRefers (tables component other : List Table) : Prop :=
  other ≠ component ∧ ∃ a ∈ component, ∃ b ∈ other, Refers tables a b

/-- The components that a component refers to, in the order of their first tables. -/
noncomputable def referencedComponents (tables component : List Table) : List (List Table) :=
  open Classical in (components tables).filter fun other => ComponentRefers tables component other

/-- The order of the recursive definition: the components are visited in the order of their first
tables, and the visited ones are written down. -/
def IsRecursiveOrder (tables ordered : List Table) : Prop :=
  ∃ visited, Visits (referencedComponents tables) [] (components tables) visited ∧
    ordered = visited.flatten

/-! ## Components and their leaders -/

/-- The tables of the component that a node leads. -/
def componentAt (tables : List Table) (l : Nat) : List Table :=
  tablesAt tables (membersOf (graphOf tables).leaders l)

theorem mem_componentAt {l : Nat} {a : Table} :
    a ∈ componentAt tables l ↔
      ∃ i ∈ membersOf (graphOf tables).leaders l, tables[i]? = some a :=
  List.mem_filterMap

theorem componentAt_eq (h : (tables.map Table.key).Nodup) {l : Nat} {a : Table}
    (hl : (graphOf tables).IsLeader l) (ha : tables[l]? = some a) :
    componentAt tables l = componentOf tables a :=
  tablesAt_membersOf h hl ⟨l, ha, .refl _ l⟩

/-- Different leaders lead different components. -/
theorem componentAt_inj (h : (tables.map Table.key).Nodup) {l m : Nat}
    (hl : (graphOf tables).IsLeader l) (hm : (graphOf tables).IsLeader m)
    (hsame : componentAt tables l = componentAt tables m) : l = m := by
  have hlt : l < tables.length := length_graphOf ▸ hl.lt_length
  have hfirst : tables[l]? = tables[m]? := by
    rw [← head?_tablesAt_membersOf hl, ← head?_tablesAt_membersOf hm]
    exact congrArg List.head? hsame
  exact (List.getElem?_inj hlt h.of_map).1 hfirst

/-- A table comes first in its component exactly if its position leads the component. -/
theorem head?_componentOf_iff (h : (tables.map Table.key).Nodup) {i : Nat} {a : Table}
    (hi : tables[i]? = some a) :
    (componentOf tables a).head? = some a ↔ (graphOf tables).leaders[i]? = some i := by
  rw [Graph.leaders_eq_some_self_iff]
  have hlt : i < (graphOf tables).length := by
    rw [length_graphOf]
    exact (List.getElem?_eq_some_iff.1 hi).1
  obtain ⟨l, _, hl, hc⟩ := (graphOf tables).exists_leader hlt
  have hhead : (componentOf tables a).head? = tables[l]? := by
    rw [← tablesAt_membersOf h hl ⟨i, hi, hc⟩]
    exact head?_tablesAt_membersOf hl
  rw [hhead]
  constructor
  · intro hfirst
    exact position_inj h hfirst hi ▸ hl
  · intro hlead
    rw [hl.eq hlead hc, hi]

/-- The components are those of the leaders. -/
theorem components_eq (h : (tables.map Table.key).Nodup) :
    components tables = (graphOf tables).firstNodes.map (componentAt tables) := by
  classical
  have hfirst : tablesAt tables (graphOf tables).firstNodes =
      tables.filter fun a => (componentOf tables a).head? = some a := by
    rw [Graph.firstNodes, length_graphOf]
    refine tablesAt_filter_range fun i a hi => ?_
    rw [Bool.eq_iff_iff, beq_iff_eq, decide_eq_true_eq, head?_componentOf_iff h hi]
  have hat : ∀ l ∈ (graphOf tables).firstNodes,
      (tables[l]?).map (componentOf tables) = some (componentAt tables l) := by
    intro l hl
    have hlead := Graph.mem_firstNodes.1 hl
    have hlt : l < tables.length := length_graphOf ▸ hlead.lt_length
    rw [List.getElem?_eq_getElem hlt, Option.map_some,
      componentAt_eq h hlead (List.getElem?_eq_getElem hlt)]
  unfold components
  rw [← hfirst, tablesAt, List.map_filterMap]
  exact List.filterMap_eq_map_iff_forall_eq_some.2 hat

/-- Components refer to each other as their leaders are joined. -/
theorem componentRefers_iff (h : (tables.map Table.key).Nodup) {l m : Nat}
    (hl : (graphOf tables).IsLeader l) (hm : (graphOf tables).IsLeader m) :
    ComponentRefers tables (componentAt tables l) (componentAt tables m) ↔
      (leaderGraph (graphOf tables) (graphOf tables).leaders).Edge l m := by
  rw [edge_leaderGraph]
  constructor
  · rintro ⟨hne, a, ha, b, hb, href⟩
    obtain ⟨i, hi, hia⟩ := mem_componentAt.1 ha
    obtain ⟨j, hj, hjb⟩ := mem_componentAt.1 hb
    obtain ⟨hjlt, _, hc⟩ := Graph.mem_membersOf.1 hj
    exact ⟨fun e => hne (by rw [e]), i, hi, j, (edge_graphOf h).2 ⟨a, b, hia, hjb, href⟩,
      (Graph.leaders_eq_some_iff hjlt).2 ⟨hm, hc⟩⟩
  · rintro ⟨hne, i, hi, j, hedge, hj⟩
    obtain ⟨a, b, hia, hjb, href⟩ := (edge_graphOf h).1 hedge
    obtain ⟨hjlt, _, hc⟩ := Graph.of_leaders_eq_some hj
    refine ⟨fun e => hne (componentAt_inj h hm hl e), a, mem_componentAt.2 ⟨i, hi, hia⟩, b,
      mem_componentAt.2 ⟨j, Graph.mem_membersOf.2 ⟨hjlt, hm, hc⟩, hjb⟩, href⟩

/-- Filters of a list that keep the same items keep the same list. -/
theorem filter_eq_filter {α : Type} {p q : α → Bool} {l : List α}
    (h : ∀ x, x ∈ l.filter p ↔ x ∈ l.filter q) : l.filter p = l.filter q := by
  refine List.filter_congr fun x hx => Bool.eq_iff_iff.2 ?_
  simpa [List.mem_filter, hx] using h x

/-- The components that a component refers to are those of the nodes that follow its leader. -/
theorem referencedComponents_componentAt (h : (tables.map Table.key).Nodup) {l : Nat}
    (hl : (graphOf tables).IsLeader l) :
    referencedComponents tables (componentAt tables l) =
      ((leaderGraph (graphOf tables) (graphOf tables).leaders).next l).map
        (componentAt tables) := by
  classical
  have hfirst : (graphOf tables).firstNodes.filter (fun m =>
      decide (ComponentRefers tables (componentAt tables l) (componentAt tables m))) =
        (leaderGraph (graphOf tables) (graphOf tables).leaders).next l := by
    rw [next_leaderGraph hl.lt_length, Graph.firstNodes, List.filter_filter]
    refine filter_eq_filter fun m => ?_
    -- both filters ask for an edge of the graph of leaders, which only leads to leaders
    have hedge : m ∈ leadersReferenced (graphOf tables) (graphOf tables).leaders l ↔
        (leaderGraph (graphOf tables) (graphOf tables).leaders).Edge l m := by
      rw [Graph.Edge, next_leaderGraph hl.lt_length]
    refine Iff.trans ?_ hedge.symm
    rw [List.mem_filter, List.mem_range, Bool.and_eq_true, decide_eq_true_eq, beq_iff_eq,
      Graph.leaders_eq_some_self_iff]
    constructor
    · rintro ⟨_, href, hlead⟩
      exact (componentRefers_iff h hl hlead).1 href
    · intro he
      have hlead := (reaches_of_edge_leaderGraph he).2.1
      exact ⟨hlead.lt_length, (componentRefers_iff h hl hlead).2 he, hlead⟩
  rw [referencedComponents, components_eq h, List.filter_map, ← hfirst]
  rfl

/-! ## The order of the tables -/

/-- The ordered tables are those of the components of the leaders, in the order of the leaders. -/
theorem sortTables_eq_flatten (tables : List Table) :
    sortTables tables = ((graphOf tables).leaderOrder.map (componentAt tables)).flatten := by
  rw [sortTables, Graph.order_eq, tablesAt, List.filterMap_flatMap, List.flatMap_def]
  rfl

theorem visits_components (h : (tables.map Table.key).Nodup) :
    Visits (referencedComponents tables) [] (components tables)
      ((graphOf tables).leaderOrder.map (componentAt tables)) := by
  rw [components_eq h]
  exact (graphOf tables).visits_firstNodes.map (p := (graphOf tables).IsLeader)
    (componentAt tables) (referencedComponents tables)
    (fun _ _ _ hm => (reaches_of_edge_leaderGraph hm).2.1)
    (fun _ hl => referencedComponents_componentAt h hl)
    (fun _ _ hl hm => componentAt_inj h hl hm) (by simp)
    (fun _ => Graph.mem_firstNodes.1)

/-- The order of the recursive definition is the order of the tables. -/
theorem isRecursiveOrder_iff (h : (tables.map Table.key).Nodup) {ordered : List Table} :
    IsRecursiveOrder tables ordered ↔ ordered = sortTables tables := by
  have hvisits := visits_components h
  rw [sortTables_eq_flatten]
  constructor
  · rintro ⟨visited, hvisited, rfl⟩
    rw [hvisited.unique hvisits]
  · rintro rfl
    exact ⟨_, hvisits, rfl⟩

/-! ## What the order depends on -/

/-- A listed table of the one key refers to a listed table of the other. -/
def KeyRefers (tables : List Table) (key other : String × String) : Prop :=
  ∃ a b, Refers tables a b ∧ a.key = key ∧ b.key = other

/-- Tables with the same keys in the same order that refer to each other alike. -/
structure SameReferences (tables others : List Table) : Prop where
  /-- The keys are the same. -/
  keys : others.map Table.key = tables.map Table.key
  /-- The same keys refer to each other. -/
  refers_iff : ∀ key other, KeyRefers others key other ↔ KeyRefers tables key other

/-- Positions are joined as their keys refer to each other. -/
theorem edge_graphOf_iff_keyRefers (h : (tables.map Table.key).Nodup) {i j : Nat} :
    (graphOf tables).Edge i j ↔ ∃ key other, (tables.map Table.key)[i]? = some key ∧
      (tables.map Table.key)[j]? = some other ∧ KeyRefers tables key other := by
  rw [edge_graphOf h]
  constructor
  · rintro ⟨a, b, hi, hj, href⟩
    exact ⟨a.key, b.key, by rw [List.getElem?_map, hi, Option.map_some],
      by rw [List.getElem?_map, hj, Option.map_some], a, b, href, rfl, rfl⟩
  · rintro ⟨_, _, hi, hj, a, b, href, rfl, rfl⟩
    rw [List.getElem?_map, Option.map_eq_some_iff] at hi hj
    obtain ⟨a', hi, ha⟩ := hi
    obtain ⟨b', hj, hb⟩ := hj
    have hinj := List.inj_on_of_nodup_map h
    rw [hinj (List.mem_of_getElem? hi) href.1 ha] at hi
    rw [hinj (List.mem_of_getElem? hj) href.2.1 hb] at hj
    exact ⟨a, b, hi, hj, href⟩

/-- Keys refer to each other as their positions are joined. -/
theorem keyRefers_iff (h : (tables.map Table.key).Nodup) {key other : String × String} :
    KeyRefers tables key other ↔ ∃ i j, (tables.map Table.key)[i]? = some key ∧
      (tables.map Table.key)[j]? = some other ∧ (graphOf tables).Edge i j := by
  constructor
  · rintro ⟨a, b, href, rfl, rfl⟩
    obtain ⟨i, hi⟩ := List.getElem?_of_mem href.1
    obtain ⟨j, hj⟩ := List.getElem?_of_mem href.2.1
    exact ⟨i, j, by rw [List.getElem?_map, hi, Option.map_some],
      by rw [List.getElem?_map, hj, Option.map_some], (edge_graphOf h).2 ⟨a, b, hi, hj, href⟩⟩
  · rintro ⟨i, j, hi, hj, hedge⟩
    obtain ⟨_, _, hi', hj', hrefers⟩ := (edge_graphOf_iff_keyRefers h).1 hedge
    rw [hi, Option.some_inj] at hi'
    rw [hj, Option.some_inj] at hj'
    exact hi' ▸ hj' ▸ hrefers

/-- Tables refer to each other alike exactly if they have the same keys and the same graph. -/
theorem sameReferences_iff (h : (tables.map Table.key).Nodup) {others : List Table} :
    SameReferences tables others ↔
      others.map Table.key = tables.map Table.key ∧ graphOf others = graphOf tables := by
  constructor
  · rintro ⟨hkeys, hrefers⟩
    refine ⟨hkeys, ?_⟩
    have hedge : ∀ i j, (graphOf others).Edge i j ↔ (graphOf tables).Edge i j := by
      intro i j
      simp only [edge_graphOf_iff_keyRefers h, edge_graphOf_iff_keyRefers (hkeys ▸ h), hkeys,
        hrefers]
    have hlength : others.length = tables.length := by
      simpa using congrArg List.length hkeys
    refine List.ext_getElem (by rw [length_graphOf, length_graphOf, hlength]) fun i hi hi' => ?_
    have hmem : ∀ j, j ∈ (graphOf others)[i] ↔ j ∈ (graphOf tables)[i] := by
      intro j
      have hboth := hedge i j
      rwa [Graph.Edge, Graph.Edge, Graph.next, Graph.next, List.getElem?_eq_getElem hi,
        List.getElem?_eq_getElem hi'] at hboth
    simp only [graphOf, List.getElem_mapIdx, referencesOf, hlength] at hmem ⊢
    exact filter_eq_filter hmem
  · rintro ⟨hkeys, hgraph⟩
    refine ⟨hkeys, fun key other => ?_⟩
    rw [keyRefers_iff (hkeys ▸ h), keyRefers_iff h, hkeys, hgraph]

theorem map_key_tablesAt (tables : List Table) (positions : List Nat) :
    (tablesAt tables positions).map Table.key =
      positions.filterMap ((tables.map Table.key)[·]?) := by
  simp only [tablesAt, List.map_filterMap, List.getElem?_map]

/-- Numbers tell the components if they tell the same nodes apart as the ones that were found. -/
theorem Graph.isNumbering_of_componentNumbers {graph : Graph} {numbers : List Nat}
    (hlength : numbers.length = graph.length)
    (hsame : ∀ v < graph.length, ∀ w < graph.length,
      (numbers[v]? = numbers[w]? ↔ graph.componentNumbers[v]? = graph.componentNumbers[w]?)) :
    graph.IsNumbering numbers where
  length_eq := hlength
  eq_iff v w hv hw := (hsame v hv w hw).trans (graph.componentNumbers_eq_iff hv hw)

/-- The tables, in the order of a walk over numbers that tell the components. -/
def sortNumbered (tables : List Table) (numbers : List Nat) : List Table :=
  tablesAt tables ((graphOf tables).orderNumbered numbers)

/-- The tables stand in the order of the recursive definition, and in no other. Whatever numbers
tell the components, a walk over them gives this order; and tables with the same keys in the same
order that refer to each other alike are brought into the same order. -/
theorem isRecursiveOrder_sortTables (h : (tables.map Table.key).Nodup) :
    (∀ ordered, IsRecursiveOrder tables ordered ↔ ordered = sortTables tables) ∧
      (∀ numbers, (graphOf tables).IsNumbering numbers →
        sortNumbered tables numbers = sortTables tables) ∧
      ∀ others, SameReferences tables others →
        (sortTables others).map Table.key = (sortTables tables).map Table.key := by
  refine ⟨fun _ => isRecursiveOrder_iff h, fun numbers hnumbers => ?_, fun others hsame => ?_⟩
  · -- numbers
    rw [sortNumbered, hnumbers.orderNumbered_eq]
    rfl
  · -- others
    obtain ⟨hkeys, hgraph⟩ := (sameReferences_iff h).1 hsame
    rw [sortTables, sortTables, hgraph, map_key_tablesAt, map_key_tablesAt, hkeys]

/-- The shop with the constraints of each table the other way round. -/
def reversedShop : List Table :=
  shop.map fun table => { table with constraints := table.constraints.reverse }

/-- The shop is visited customers first; orders and payments may be told by any number of their own,
and neither the order of the constraints nor other numbers change the order. -/
theorem isRecursiveOrder_shop :
    (shop.map Table.key).Nodup ∧ (graphOf shop).IsNumbering [7, 3, 7] ∧
      SameReferences shop reversedShop ∧ IsRecursiveOrder shop (sortTables shop) ∧
      sortNumbered shop [7, 3, 7] = sortTables shop ∧
      (sortTables reversedShop).map Table.key = (sortTables shop).map Table.key := by
  have hkeys : (shop.map Table.key).Nodup := by decide
  have hnumbers : (graphOf shop).IsNumbering [7, 3, 7] :=
    Graph.isNumbering_of_componentNumbers (by decide) (by decide)
  have hsame : SameReferences shop reversedShop :=
    (sameReferences_iff hkeys).2 ⟨by decide, by decide⟩
  obtain ⟨horder, hnumbered, hothers⟩ := isRecursiveOrder_sortTables hkeys
  exact ⟨hkeys, hnumbers, hsame, (horder _).2 rfl, hnumbered _ hnumbers, hothers _ hsame⟩

end SchemaCodegen.Dependency
