import Mathlib.Data.List.Perm.Subperm
import SchemaCodegen.Proofs.Dependency.TableOrder

/-!
# Proofs: circles of tables

The circles of a list of tables are its components with two tables or more, each told once, in the
order of their first tables. There are none exactly if the order of the tables goes against no
reference: tables that lead to each other cannot all stand after one another.
-/

namespace SchemaCodegen.Dependency

/-! ## Circles of a graph -/

section Graph

variable {graph : Graph}

/-- The cycles are the components of the nodes that lead at least two. -/
theorem Graph.cycles_eq (graph : Graph) :
    graph.cycles = ((List.range graph.length).filter fun l =>
      1 < (membersOf graph.leaders l).length).map (membersOf graph.leaders) := by
  rw [cycles, List.filter_map]
  rfl

/-- A node that leads any node is a leader. -/
theorem Graph.isLeader_of_length_membersOf {l : Nat}
    (h : 0 < (membersOf graph.leaders l).length) : graph.IsLeader l := by
  obtain ⟨v, hv⟩ := List.exists_mem_of_length_pos h
  exact (mem_membersOf.1 hv).2.1

/-- The first member of a component is its leader. -/
theorem Graph.head?_membersOf {l : Nat} (h : graph.IsLeader l) :
    (membersOf graph.leaders l).head? = some l := by
  have hmem := h.mem_membersOf
  have hle : ∀ v ∈ membersOf graph.leaders l, l ≤ v := by
    intro v hv
    obtain ⟨hvl, _, hc⟩ := mem_membersOf.1 hv
    exact h.le_of_connected v hvl hc
  have hsorted : (membersOf graph.leaders l).Pairwise (· < ·) :=
    List.pairwise_lt_range.sublist (membersOf_sublist_range l)
  cases hcases : membersOf graph.leaders l with
  | nil => rw [hcases] at hmem; cases hmem
  | cons first rest =>
    rw [hcases] at hmem hle hsorted
    have hfirst : l ≤ first := hle first (List.mem_cons_self ..)
    rcases List.mem_cons.1 hmem with rfl | hrest
    · rfl
    · have := (List.pairwise_cons.1 hsorted).1 l hrest
      omega

end Graph

variable {tables : List Table}

/-! ## First tables -/

theorem length_tablesAt {positions : List Nat} (h : ∀ i ∈ positions, i < tables.length) :
    (tablesAt tables positions).length = positions.length :=
  List.filterMap_length_eq_length.2 fun i hi => by simpa using h i hi

theorem length_tablesAt_membersOf (l : Nat) :
    (tablesAt tables (membersOf (graphOf tables).leaders l)).length =
      (membersOf (graphOf tables).leaders l).length := by
  refine length_tablesAt fun i hi => ?_
  rw [← length_graphOf]
  exact (Graph.mem_membersOf.1 hi).1

theorem head?_tablesAt_membersOf {l : Nat} (h : (graphOf tables).IsLeader l) :
    (tablesAt tables (membersOf (graphOf tables).leaders l)).head? = tables[l]? := by
  have hl : l < tables.length := length_graphOf ▸ h.lt_length
  obtain ⟨rest, hrest⟩ := List.head?_eq_some_iff.1 (Graph.head?_membersOf h)
  rw [hrest, tablesAt, List.filterMap_cons_some (List.getElem?_eq_getElem hl), List.head?_cons,
    List.getElem?_eq_getElem hl]

theorem findCycles_eq (tables : List Table) :
    findCycles tables = ((List.range tables.length).filter fun l =>
      1 < (membersOf (graphOf tables).leaders l).length).map
        (fun l => tablesAt tables (membersOf (graphOf tables).leaders l)) := by
  rw [findCycles, Graph.cycles_eq, length_graphOf, List.map_map]
  rfl

/-- The circles stand in the order of their first tables. -/
theorem head?_findCycles_sublist (tables : List Table) :
    ((findCycles tables).map List.head?).Sublist (tables.map some) := by
  have hall : (List.range tables.length).map (tables[·]?) = tables.map some := by
    refine List.ext_getElem (by simp) fun i hi _ => ?_
    have hi' : i < tables.length := by simpa using hi
    simp [hi']
  have hfirst : (findCycles tables).map List.head? = ((List.range tables.length).filter fun l =>
      1 < (membersOf (graphOf tables).leaders l).length).map (tables[·]?) := by
    rw [findCycles_eq, List.map_map]
    refine List.map_congr_left fun l hl => ?_
    have hlen := of_decide_eq_true (List.mem_filter.1 hl).2
    exact head?_tablesAt_membersOf (Graph.isLeader_of_length_membersOf (by omega))
  rw [← hall, hfirst]
  exact List.filter_sublist.map _

/-! ## Circles are components -/

theorem nodup_componentOf (h : (tables.map Table.key).Nodup) (a : Table) :
    (componentOf tables a).Nodup :=
  List.filter_sublist.nodup h.of_map

theorem self_mem_componentOf {a : Table} (ha : a ∈ tables) : a ∈ componentOf tables a :=
  mem_componentOf.2 ⟨ha, .refl, .refl⟩

theorem mem_findCycles (h : (tables.map Table.key).Nodup) {circle : List Table} :
    circle ∈ findCycles tables ↔
      ∃ a ∈ tables, circle = componentOf tables a ∧ 2 ≤ circle.length := by
  simp only [findCycles_eq, List.mem_map, List.mem_filter, List.mem_range, decide_eq_true_eq]
  constructor
  · rintro ⟨l, ⟨hl, hlen⟩, rfl⟩
    have hlead : (graphOf tables).IsLeader l := Graph.isLeader_of_length_membersOf (by omega)
    have hat := List.getElem?_eq_getElem hl
    refine ⟨tables[l], List.getElem_mem hl, ?_, ?_⟩
    · exact tablesAt_membersOf h hlead ⟨l, hat, .refl _ l⟩
    · rwa [length_tablesAt_membersOf]
  · rintro ⟨a, ha, rfl, hlen⟩
    obtain ⟨l, hlead, hmembers⟩ := exists_leader_of_mem h ha
    refine ⟨l, ⟨length_graphOf ▸ hlead.lt_length, ?_⟩, hmembers⟩
    rwa [← length_tablesAt_membersOf, hmembers]

/-- A table that leads back to one that refers to it shares a circle with it. -/
theorem componentOf_mem_findCycles (h : (tables.map Table.key).Nodup) {a b : Table}
    (href : Refers tables a b) (hback : Leads tables b a) :
    componentOf tables a ∈ findCycles tables := by
  have hnodup : [a, b].Nodup := by simpa using href.2.2.1
  have hsub : [a, b] ⊆ componentOf tables a := by
    intro x hx
    rcases List.mem_pair.1 hx with rfl | rfl
    · exact self_mem_componentOf href.1
    · exact mem_componentOf.2 ⟨href.2.1, .single href, hback⟩
  exact (mem_findCycles h).2 ⟨a, href.1, rfl, (hnodup.subperm hsub).length_le⟩

/-! ## Circles and the order -/

/-- In a list without repetition, the first of two elements stands at the lower position. -/
theorem idxOf_lt_of_pair_sublist {l : List Table} {a b : Table} (hl : l.Nodup)
    (h : [b, a].Sublist l) : l.idxOf b < l.idxOf a := by
  obtain ⟨front, back, rfl, hb, ha⟩ := List.cons_sublist_iff.1 h
  have ha' : a ∉ front := fun hmem =>
    List.disjoint_of_nodup_append hl hmem (List.singleton_sublist.1 ha)
  rw [List.idxOf_append_of_mem hb, List.idxOf_append_of_notMem ha']
  have := List.idxOf_lt_length_of_mem hb
  omega

/-- If no reference goes against an order, then what a table leads to does not stand after it. -/
theorem idxOf_le_of_leads {ordered : List Table} (hl : ordered.Nodup)
    (h : ∀ a b, Refers tables a b → [b, a].Sublist ordered) {a b : Table}
    (hab : Leads tables a b) : ordered.idxOf b ≤ ordered.idxOf a := by
  induction hab with
  | refl => exact Nat.le_refl _
  | tail _ href ih => exact Nat.le_trans (idxOf_lt_of_pair_sublist hl (h _ _ href)).le ih

/-- If no reference goes against an order, then no two tables share a component. -/
theorem length_componentOf_le_one {ordered : List Table} (hkeys : (tables.map Table.key).Nodup)
    (hperm : ordered.Perm tables) (h : ∀ a b, Refers tables a b → [b, a].Sublist ordered)
    (a : Table) : (componentOf tables a).length ≤ 1 := by
  have hnodup : ordered.Nodup := hperm.nodup_iff.2 hkeys.of_map
  have hsame : ∀ x ∈ componentOf tables a, ∀ y ∈ componentOf tables a, x = y := by
    intro x hx y hy
    obtain ⟨hxl, hax, hxa⟩ := mem_componentOf.1 hx
    obtain ⟨_, hay, hya⟩ := mem_componentOf.1 hy
    have hxy := idxOf_le_of_leads hnodup h (hxa.trans hay)
    have hyx := idxOf_le_of_leads hnodup h (hya.trans hax)
    exact (List.idxOf_inj (hperm.mem_iff.2 hxl)).1 (Nat.le_antisymm hyx hxy)
  have hc := nodup_componentOf hkeys a
  rcases hcases : componentOf tables a with _ | ⟨x, _ | ⟨y, rest⟩⟩
  · exact Nat.zero_le 1
  · exact Nat.le_refl 1
  · rw [hcases] at hc hsame
    have hxy := hsame x (List.mem_cons_self ..) y (List.mem_cons_of_mem _ (List.mem_cons_self ..))
    exact absurd (hxy ▸ List.mem_cons_self ..) (List.nodup_cons.1 hc).1

/-- There are no circles exactly if every table stands after all others that it refers to. -/
theorem findCycles_eq_nil_iff (h : (tables.map Table.key).Nodup) :
    findCycles tables = [] ↔ ∀ a b, Refers tables a b → [b, a].Sublist (sortTables tables) := by
  constructor
  · intro hnil a b href
    refine (sortTables_of_refers h href).resolve_right fun hback => ?_
    have hmem := componentOf_mem_findCycles h href hback
    rw [hnil] at hmem
    cases hmem
  · intro horder
    refine List.eq_nil_iff_forall_not_mem.2 fun circle hmem => ?_
    obtain ⟨a, _, rfl, hlen⟩ := (mem_findCycles h).1 hmem
    have := length_componentOf_le_one h (sortTables_perm tables) horder a
    omega

/-- Of two elements of a list, one stands before the other. -/
theorem pair_sublist_or {l : List Table} {a b : Table} (ha : a ∈ l) (hb : b ∈ l) (hne : a ≠ b) :
    [a, b].Sublist l ∨ [b, a].Sublist l := by
  obtain ⟨front, back, rfl⟩ := List.append_of_mem ha
  rcases List.mem_append.1 hb with hfront | hrest
  · right
    exact (List.singleton_sublist.2 hfront).append
      (List.singleton_sublist.2 (List.mem_cons_self ..))
  · left
    have hback : b ∈ back := (List.mem_cons.1 hrest).resolve_left hne.symm
    exact ((List.singleton_sublist.2 hback).cons_cons a).trans (List.sublist_append_right ..)

/-- There is a circle exactly if some table stands before another one that it refers to. -/
theorem findCycles_ne_nil_iff (h : (tables.map Table.key).Nodup) :
    findCycles tables ≠ [] ↔ ∃ a b, Refers tables a b ∧ [a, b].Sublist (sortTables tables) := by
  have hperm := sortTables_perm tables
  have hnodup : (sortTables tables).Nodup := hperm.nodup_iff.2 h.of_map
  rw [ne_eq, findCycles_eq_nil_iff h]
  constructor
  · intro hagainst
    push Not at hagainst
    obtain ⟨a, b, href, hnot⟩ := hagainst
    have hor := pair_sublist_or (hperm.mem_iff.2 href.1) (hperm.mem_iff.2 href.2.1) href.2.2.1
    exact ⟨a, b, href, hor.resolve_right hnot⟩
  · rintro ⟨a, b, href, hbefore⟩ horder
    have hlt := idxOf_lt_of_pair_sublist hnodup hbefore
    have hgt := idxOf_lt_of_pair_sublist hnodup (horder a b href)
    omega

/-- A list of the circles of tables. -/
structure IsCircleList (tables : List Table) (circles : List (List Table)) : Prop where
  /-- The circles are the components of at least two tables. -/
  mem_iff : ∀ circle, circle ∈ circles ↔
    ∃ a ∈ tables, circle = componentOf tables a ∧ 2 ≤ circle.length
  /-- No circle is told twice. -/
  nodup : circles.Nodup
  /-- The first tables of the circles stand in the order of the list. -/
  ordered : (circles.map List.head?).Sublist (tables.map some)

/-- The circles of tables that are told apart by their keys are found, and there are none exactly if
every table stands after all others that it refers to. -/
theorem isCircleList_findCycles (h : (tables.map Table.key).Nodup) :
    IsCircleList tables (findCycles tables) ∧
      (findCycles tables = [] ↔
        ∀ a b, Refers tables a b → [b, a].Sublist (sortTables tables)) := by
  refine ⟨{ mem_iff := ?_, nodup := ?_, ordered := ?_ }, findCycles_eq_nil_iff h⟩
  · -- mem_iff
    intro circle
    exact mem_findCycles h
  · -- nodup
    have hsome : (tables.map some).Nodup := h.of_map.map fun _ _ => Option.some.inj
    exact ((head?_findCycles_sublist tables).nodup hsome).of_map
  · -- ordered
    exact head?_findCycles_sublist tables

/-- Orders and payments are the only circle of the shop. -/
theorem isCircleList_shop :
    (shop.map Table.key).Nodup ∧
      (IsCircleList shop (findCycles shop) ∧
        (findCycles shop = [] ↔ ∀ a b, Refers shop a b → [b, a].Sublist (sortTables shop))) ∧
      (findCycles shop).map (·.map Table.name) = [["orders", "payments"]] :=
  ⟨by decide, isCircleList_findCycles (by decide), by decide⟩

end SchemaCodegen.Dependency
