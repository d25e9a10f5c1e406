import SchemaCodegen.Proofs.Dependency.Circles
import SchemaCodegen.Proofs.Dependency.Numbering

/-!
# Proofs: tables that stand in order already

Tables that stand in dependency order stay as they are, and only these do. In their graph an edge
between two components leads to an earlier node, and the nodes of a component stand together; so the
leaders are left in increasing order, and the members of one leader stand before those of the next.
Ordered tables therefore do not change when they are ordered again: they refer to each other as
before, whatever their positions.
-/

namespace SchemaCodegen.Dependency

/-! ## Ordered graphs -/

section Graph

variable {graph : Graph}

/-- A graph whose nodes stand in dependency order. -/
structure Graph.IsOrdered (graph : Graph) : Prop where
  /-- The nodes of a component stand together. -/
  between : ∀ a b c, a < b → b < c → c < graph.length → graph.Connected a c → graph.Connected a b
  /-- An edge leads to an earlier node, unless it lies on a circle. -/
  before : ∀ a b, graph.Edge a b → ¬graph.Reaches b a → b < a

namespace Graph.IsOrdered

/-- All members of a component stand before those of a component with a later leader. -/
theorem lt_of_lt_leader (h : graph.IsOrdered) {l m v w : Nat} (hl : graph.IsLeader l)
    (hm : graph.IsLeader m) (hlt : l < m) (hv : v ∈ membersOf graph.leaders l)
    (hw : w ∈ membersOf graph.leaders m) : v < w := by
  obtain ⟨hvl, _, hlv⟩ := Graph.mem_membersOf.1 hv
  obtain ⟨hwl, _, hmw⟩ := Graph.mem_membersOf.1 hw
  have hmle := hm.le_of_connected w hwl hmw
  refine Nat.lt_of_not_le fun hwv => Nat.ne_of_lt hlt (hl.eq hm ?_)
  -- otherwise the later leader stands among the members of the earlier one
  rcases Nat.lt_or_eq_of_le (Nat.le_trans hmle hwv) with hmv | rfl
  · exact h.between l m v hlt hmv hvl hlv
  · exact hlv

/-- An edge of the graph of leaders leads to an earlier leader. -/
theorem lt_of_edge_leaderGraph (h : graph.IsOrdered) {l m : Nat}
    (hedge : (leaderGraph graph graph.leaders).Edge l m) : m < l := by
  obtain ⟨hl, hm, _⟩ := reaches_of_edge_leaderGraph hedge
  obtain ⟨hne, v, hv, w, hvw, hmw⟩ := edge_leaderGraph.1 hedge
  obtain ⟨hwlt, _, hcw⟩ := Graph.of_leaders_eq_some hmw
  have hcv := (Graph.mem_membersOf.1 hv).2.2
  have hback : ¬graph.Reaches w v := fun hback =>
    hne (hm.eq hl (hcw.trans (Graph.Connected.trans ⟨hback, .single hvw⟩ hcv.symm)))
  have hbefore := h.before v w hvw hback
  have hw : w ∈ membersOf graph.leaders m := Graph.mem_membersOf.2 ⟨hwlt, hm, hcw⟩
  refine Nat.lt_of_le_of_ne (Nat.le_of_not_lt fun hlt => ?_) hne
  exact Nat.lt_asymm hbefore (h.lt_of_lt_leader hl hm hlt hv hw)

/-- The leaders are left in increasing order. -/
theorem leaderOrder_eq (h : graph.IsOrdered) : graph.leaderOrder = graph.firstNodes := by
  have hsorted := graph.pairwise_firstNodes
  refine graph.visits_firstNodes.unique (Visits.of_ordered ?_ fun front l back he m hm => ?_)
  · exact hsorted.imp Nat.ne_of_lt
  · have hmem : m ∈ front ++ l :: back :=
      he ▸ Graph.mem_firstNodes.2 (reaches_of_edge_leaderGraph hm).2.1
    rw [he, List.pairwise_append, List.pairwise_cons] at hsorted
    have hlt := h.lt_of_edge_leaderGraph hm
    rcases List.mem_append.1 hmem with hfront | hrest
    · exact hfront
    · rcases List.mem_cons.1 hrest with rfl | hback
      · exact absurd hlt (Nat.lt_irrefl _)
      · exact absurd hlt (Nat.lt_asymm (hsorted.2.1.1 m hback))

/-- The nodes of an ordered graph are left as they are. -/
theorem order_eq_range (h : graph.IsOrdered) : graph.order = List.range graph.length := by
  have hlead : ∀ l ∈ graph.firstNodes, graph.IsLeader l := fun _ => Graph.mem_firstNodes.1
  have hsorted : graph.order.Pairwise (· < ·) := by
    rw [Graph.order_eq, h.leaderOrder_eq, List.pairwise_flatMap]
    refine ⟨fun l _ => List.pairwise_lt_range.sublist (Graph.membersOf_sublist_range l), ?_⟩
    refine graph.pairwise_firstNodes.imp_of_mem fun hl hm hlt v hv w hw => ?_
    exact h.lt_of_lt_leader (hlead _ hl) (hlead _ hm) hlt hv hw
  exact graph.order_perm.eq_of_pairwise
    (fun _ _ _ _ hab hba => absurd hab (Nat.lt_asymm hba)) hsorted List.pairwise_lt_range

end Graph.IsOrdered

end Graph

/-! ## Parts of a list -/

section Infix

variable {α : Type} {part l : List α}

theorem getElem?_middle {front back : List α} {k : Nat} (h : k < part.length) :
    (front ++ part ++ back)[front.length + k]? = part[k]? := by
  rw [List.append_assoc, List.getElem?_append_right (Nat.le_add_right ..),
    Nat.add_sub_cancel_left, List.getElem?_append_left h]

/-- What stands between two elements of a part of a list belongs to the part. -/
theorem mem_of_isInfix (hl : l.Nodup) (hpart : part <:+: l) {i j k : Nat} {a b c : α}
    (hij : i < j) (hjk : j < k) (hi : l[i]? = some a) (hj : l[j]? = some b) (hk : l[k]? = some c)
    (ha : a ∈ part) (hc : c ∈ part) : b ∈ part := by
  obtain ⟨front, back, rfl⟩ := hpart
  -- the first and the last of the three stand where the part stands
  have hrange : ∀ n x, (front ++ part ++ back)[n]? = some x → x ∈ part →
      front.length ≤ n ∧ n < front.length + part.length := by
    intro n x hn hx
    obtain ⟨m, hm⟩ := List.getElem?_of_mem hx
    have hmlt := (List.getElem?_eq_some_iff.1 hm).1
    have hnlt := (List.getElem?_eq_some_iff.1 hn).1
    have hsame : (front ++ part ++ back)[n]? = (front ++ part ++ back)[front.length + m]? := by
      rw [hn, getElem?_middle hmlt, hm]
    have hplace := (List.getElem?_inj hnlt hl).1 hsame
    omega
  have hfirst := hrange i a hi ha
  have hlast := hrange k c hk hc
  obtain ⟨m, rfl⟩ := Nat.exists_eq_add_of_le (Nat.le_trans hfirst.1 hij.le)
  rw [getElem?_middle (by omega)] at hj
  exact List.mem_of_getElem? hj

/-- A part of a list is what a filter for its elements keeps. -/
theorem filter_eq_of_isInfix (hl : l.Nodup) (hpart : part <:+: l) {p : α → Bool}
    (hp : ∀ x ∈ l, p x ↔ x ∈ part) : l.filter p = part := by
  obtain ⟨front, back, rfl⟩ := hpart
  have hdisjoint := List.nodup_append.1 hl
  have hfront : front.filter p = [] := by
    refine List.filter_eq_nil_iff.2 fun x hx hkeep => ?_
    have hmem := (hp x (by simp [hx])).1 hkeep
    exact (List.nodup_append.1 hdisjoint.1).2.2 x hx x hmem rfl
  have hback : back.filter p = [] := by
    refine List.filter_eq_nil_iff.2 fun x hx hkeep => ?_
    have hmem := (hp x (by simp [hx])).1 hkeep
    exact hdisjoint.2.2 x (List.mem_append_right _ hmem) x hx rfl
  have hkept : part.filter p = part :=
    List.filter_eq_self.2 fun x hx => (hp x (by simp [hx])).2 hx
  rw [List.filter_append, List.filter_append, hfront, hkept, hback, List.nil_append,
    List.append_nil]

end Infix

/-! ## Ordered tables -/

variable {tables others : List Table}

/-- The graph of tables that stand in order is ordered. -/
theorem isOrdered_graphOf (h : (tables.map Table.key).Nodup)
    (horder : IsDependencyOrder tables tables) : (graphOf tables).IsOrdered where
  between a b c hab hbc hc hconnected := by
    rw [length_graphOf] at hc
    have ha := List.getElem?_eq_getElem (Nat.lt_trans (Nat.lt_trans hab hbc) hc)
    have hb := List.getElem?_eq_getElem (Nat.lt_trans hbc hc)
    have hc := List.getElem?_eq_getElem hc
    have hmem := mem_componentOf.2 ⟨List.mem_of_getElem? hc,
      (reaches_graphOf h ha hc).1 hconnected.1, (reaches_graphOf h hc ha).1 hconnected.2⟩
    have hpart := horder.together _ (List.mem_of_getElem? ha)
    have hbetween := mem_of_isInfix h.of_map hpart hab hbc ha hb hc
      (self_mem_componentOf (List.mem_of_getElem? ha)) hmem
    obtain ⟨_, hto, hfro⟩ := mem_componentOf.1 hbetween
    exact ⟨(reaches_graphOf h ha hb).2 hto, (reaches_graphOf h hb ha).2 hfro⟩
  before i j hedge hback := by
    obtain ⟨a, b, hi, hj, href⟩ := (edge_graphOf h).1 hedge
    have hpair := horder.before a b href fun hl => hback ((reaches_graphOf h hj hi).2 hl)
    have hlt := idxOf_lt_of_pair_sublist h.of_map hpair
    obtain ⟨hilt, rfl⟩ := List.getElem?_eq_some_iff.1 hi
    obtain ⟨hjlt, rfl⟩ := List.getElem?_eq_some_iff.1 hj
    have hnodup : tables.Nodup := h.of_map
    rwa [hnodup.idxOf_getElem, hnodup.idxOf_getElem] at hlt

/-- Tables that stand in order stay as they are. -/
theorem sortTables_eq_self (h : (tables.map Table.key).Nodup)
    (horder : IsDependencyOrder tables tables) : sortTables tables = tables := by
  rw [sortTables, (isOrdered_graphOf h horder).order_eq_range, length_graphOf, tablesAt_range]

/-! ## Tables in another order -/

theorem refers_iff_of_perm (h : others.Perm tables) {a b : Table} :
    Refers others a b ↔ Refers tables a b := by
  rw [Refers, Refers, h.mem_iff, h.mem_iff]

theorem leads_iff_of_perm (h : others.Perm tables) {a b : Table} :
    Leads others a b ↔ Leads tables a b := by
  have hrefers : Refers others = Refers tables := by
    funext a b
    exact propext (refers_iff_of_perm h)
  rw [Leads, Leads, hrefers]

/-- A component that stands together in another order is the component there. -/
theorem componentOf_eq_of_isInfix (h : others.Perm tables) (hnodup : others.Nodup) {a : Table}
    (hpart : componentOf tables a <:+: others) : componentOf others a = componentOf tables a := by
  classical
  refine filter_eq_of_isInfix hnodup hpart fun b hb => ?_
  rw [decide_eq_true_eq, mem_componentOf, leads_iff_of_perm h, leads_iff_of_perm h]
  exact (and_iff_right (h.mem_iff.1 hb)).symm

/-- An order of tables is an order of the tables in that order. -/
theorem IsDependencyOrder.self (horder : IsDependencyOrder tables others) (hnodup : others.Nodup) :
    IsDependencyOrder others others where
  perm := .refl _
  before a b href hback :=
    horder.before a b ((refers_iff_of_perm horder.perm).1 href) fun hl =>
      hback ((leads_iff_of_perm horder.perm).2 hl)
  together a ha := by
    have hpart := horder.together a (horder.perm.mem_iff.1 ha)
    rwa [componentOf_eq_of_isInfix horder.perm hnodup hpart]

/-- Tables that are told apart by their keys stay as they are if and only if they stand in order;
so they stay as they are once they were ordered. -/
theorem sortTables_settled (h : (tables.map Table.key).Nodup) :
    (sortTables tables = tables ↔ IsDependencyOrder tables tables) ∧
      sortTables (sortTables tables) = sortTables tables := by
  refine ⟨⟨isDependencyOrder_of_sortTables_eq h, sortTables_eq_self h⟩, ?_⟩
  have hkeys : ((sortTables tables).map Table.key).Nodup :=
    ((sortTables_perm tables).map Table.key).nodup_iff.2 h
  have horder := isDependencyOrder_of_sortTables_eq h rfl
  exact sortTables_eq_self hkeys (horder.self hkeys.of_map)

/-- The tables of the shop, customers first. -/
def settledShop : List Table :=
  tablesAt shop [1, 0, 2]

/-- The shop changes when it is ordered, but only once. -/
theorem sortTables_settled_shop :
    (shop.map Table.key).Nodup ∧ (settledShop.map Table.key).Nodup ∧
      ¬IsDependencyOrder shop shop ∧ IsDependencyOrder settledShop settledShop ∧
      sortTables (sortTables shop) = sortTables shop := by
  have hkeys : (shop.map Table.key).Nodup := by decide
  have hsettled : (settledShop.map Table.key).Nodup := by decide
  obtain ⟨hshop, htwice⟩ := sortTables_settled hkeys
  refine ⟨hkeys, hsettled, ?_, (sortTables_settled hsettled).1.1 (by decide), htwice⟩
  exact fun horder => absurd (hshop.2 horder) (by decide)

end SchemaCodegen.Dependency
