import Mathlib.Data.List.Flatten
import Mathlib.Data.List.Infix
import SchemaCodegen.Proofs.Dependency.Postorder
import SchemaCodegen.Proofs.Dependency.SearchRun

/-!
# Proofs: components by their leaders

The leader of a component is its first node. The graph of leaders has an edge wherever an edge joins
two components, so its walk brings the components into an order in which no edge is against it
unless it lies on a circle.
-/

namespace SchemaCodegen.Dependency

variable (graph : Graph)

/-- The leader of each node. -/
def Graph.leaders : List Nat :=
  leadersOf graph.componentNumbers

/-- A node that comes before all others of its component. -/
structure Graph.IsLeader (l : Nat) : Prop where
  /-- It is a node. -/
  lt_length : l < graph.length
  /-- No node of its component comes before it. -/
  le_of_connected : ∀ v < graph.length, graph.Connected l v → l ≤ v

variable {graph}

/-- A component has one leader. -/
theorem Graph.IsLeader.eq {l m : Nat} (hl : graph.IsLeader l) (hm : graph.IsLeader m)
    (h : graph.Connected l m) : l = m :=
  Nat.le_antisymm (hl.le_of_connected m hm.lt_length h)
    (hm.le_of_connected l hl.lt_length h.symm)

/-- The first node with the number of a node leads its component, whatever the numbers are. -/
theorem Graph.IsNumbering.exists_leader {numbers : List Nat} (h : graph.IsNumbering numbers)
    {v : Nat} (hv : v < graph.length) :
    ∃ l, (leadersOf numbers)[v]? = some l ∧ graph.IsLeader l ∧ graph.Connected l v := by
  have hlen := h.length_eq
  have hv' : v < numbers.length := by omega
  have hmem : numbers[v] ∈ numbers := List.getElem_mem hv'
  have hl : numbers.idxOf numbers[v] < graph.length := hlen ▸ List.idxOf_lt_length_of_mem hmem
  -- the leader is the node at which the number of the component stands first
  have hat : numbers[numbers.idxOf numbers[v]]? = numbers[v]? := by
    rw [List.getElem?_idxOf hmem, List.getElem?_eq_getElem hv']
  refine ⟨numbers.idxOf numbers[v], ?_, ⟨hl, fun w hw hc => ?_⟩, ?_⟩
  · rw [leadersOf, List.getElem?_map, List.getElem?_eq_getElem hv', Option.map_some]
  · have hw' : w < numbers.length := by omega
    have heq := (h.eq_iff _ w hl hw).2 hc
    rw [hat, List.getElem?_eq_getElem hv', List.getElem?_eq_getElem hw',
      Option.some.injEq] at heq
    refine Nat.le_of_not_lt fun hlt => ?_
    have hne := List.not_of_lt_findIdx (p := fun c => c == numbers[v]) hlt
    exact absurd heq.symm (by simpa using hne)
  · exact (h.eq_iff _ v hl hv).1 hat

variable (graph)

theorem Graph.length_leaders : graph.leaders.length = graph.length := by
  rw [leaders, leadersOf, List.length_map, length_componentNumbers]

/-- The leader of a node leads its component. -/
theorem Graph.exists_leader {v : Nat} (hv : v < graph.length) :
    ∃ l, graph.leaders[v]? = some l ∧ graph.IsLeader l ∧ graph.Connected l v :=
  graph.isNumbering_componentNumbers.exists_leader hv

variable {graph}

/-- A node is the leader of another one exactly if it leads that one's component. -/
theorem Graph.leaders_eq_some_iff {v l : Nat} (hv : v < graph.length) :
    graph.leaders[v]? = some l ↔ graph.IsLeader l ∧ graph.Connected l v := by
  obtain ⟨m, hm, hlead, hc⟩ := graph.exists_leader hv
  rw [hm, Option.some.injEq]
  refine ⟨fun e => e ▸ ⟨hlead, hc⟩, fun ⟨hl, hlv⟩ => ?_⟩
  exact hlead.eq hl (hc.trans hlv.symm)

/-- What has a leader is a node of the component that the leader leads. -/
theorem Graph.of_leaders_eq_some {v l : Nat} (h : graph.leaders[v]? = some l) :
    v < graph.length ∧ graph.IsLeader l ∧ graph.Connected l v := by
  have hlt := (List.getElem?_eq_some_iff.1 h).1
  rw [graph.length_leaders] at hlt
  exact ⟨hlt, (Graph.leaders_eq_some_iff hlt).1 h⟩

theorem Graph.isLeader_of_mem_leaders {l : Nat} (h : l ∈ graph.leaders) : graph.IsLeader l := by
  obtain ⟨v, hv⟩ := List.getElem?_of_mem h
  exact (Graph.of_leaders_eq_some hv).2.1

/-- All numbers that tell the components give the same leaders. -/
theorem Graph.IsNumbering.leadersOf_eq {numbers : List Nat} (h : graph.IsNumbering numbers) :
    leadersOf numbers = graph.leaders := by
  have hlen : (leadersOf numbers).length = graph.length := by
    rw [leadersOf, List.length_map, h.length_eq]
  refine List.ext_getElem? fun v => ?_
  by_cases hv : v < graph.length
  · obtain ⟨l, hat, hl, hc⟩ := h.exists_leader hv
    rw [hat, (Graph.leaders_eq_some_iff hv).2 ⟨hl, hc⟩]
  · rw [List.getElem?_eq_none (by omega),
      List.getElem?_eq_none (by rw [graph.length_leaders]; omega)]

theorem Graph.mem_membersOf {l v : Nat} :
    v ∈ membersOf graph.leaders l ↔ v < graph.length ∧ graph.IsLeader l ∧ graph.Connected l v := by
  rw [membersOf, nodesNumbered, List.mem_filter, List.mem_range, graph.length_leaders, beq_iff_eq]
  exact and_congr_right fun hv => Graph.leaders_eq_some_iff hv

theorem Graph.IsLeader.mem_membersOf {l : Nat} (h : graph.IsLeader l) :
    l ∈ membersOf graph.leaders l :=
  Graph.mem_membersOf.2 ⟨h.lt_length, h, .refl graph l⟩

/-- The members of a component stand in increasing order. -/
theorem Graph.membersOf_sublist_range (l : Nat) :
    (membersOf graph.leaders l).Sublist (List.range graph.length) := by
  rw [membersOf, nodesNumbered, graph.length_leaders]
  exact List.filter_sublist

/-! ## The graph of leaders -/

theorem next_leaderGraph {l : Nat} (hl : l < graph.length) :
    (leaderGraph graph graph.leaders).next l = leadersReferenced graph graph.leaders l := by
  rw [Graph.next, leaderGraph, List.getElem?_map, List.getElem?_range hl]
  rfl

/-- An edge of the graph of leaders joins two components that an edge of the graph joins. -/
theorem edge_leaderGraph {l m : Nat} :
    (leaderGraph graph graph.leaders).Edge l m ↔
      m ≠ l ∧ ∃ v ∈ membersOf graph.leaders l, ∃ w,
        graph.Edge v w ∧ graph.leaders[w]? = some m := by
  have hlt : ∀ w : Nat, graph.leaders[w]? = some m → m < graph.length :=
    fun _ hw => (Graph.isLeader_of_mem_leaders (List.mem_of_getElem? hw)).lt_length
  constructor
  · intro h
    have hl : l < graph.length := by simpa [leaderGraph] using h.lt_length
    rw [Graph.Edge, next_leaderGraph hl] at h
    simp only [leadersReferenced, List.mem_filter, Bool.and_eq_true, bne_iff_ne,
      List.contains_iff_mem, List.mem_filterMap, List.mem_flatMap] at h
    obtain ⟨_, hne, w, ⟨v, hv, hw⟩, hm⟩ := h
    exact ⟨hne, v, hv, w, hw, hm⟩
  · rintro ⟨hne, v, hv, w, hw, hm⟩
    rw [Graph.Edge, next_leaderGraph (Graph.mem_membersOf.1 hv).2.1.lt_length]
    simp only [leadersReferenced, List.mem_filter, Bool.and_eq_true, bne_iff_ne,
      List.contains_iff_mem, List.mem_filterMap, List.mem_flatMap, List.mem_range]
    exact ⟨hlt w hm, hne, w, ⟨v, hv, hw⟩, hm⟩

theorem isClosed_leaderGraph : (leaderGraph graph graph.leaders).isClosed := by
  simp only [Graph.isClosed, leaderGraph, List.all_eq_true, List.mem_map, decide_eq_true_eq,
    List.length_map, List.length_range]
  rintro _ ⟨l, _, rfl⟩ m hm
  exact List.mem_range.1 (List.mem_filter.1 hm).1

/-- An edge of the graph of leaders leads from a leader to a leader that it reaches. -/
theorem reaches_of_edge_leaderGraph {l m : Nat}
    (h : (leaderGraph graph graph.leaders).Edge l m) :
    graph.IsLeader l ∧ graph.IsLeader m ∧ graph.Reaches l m := by
  obtain ⟨_, v, hv, w, hw, hm⟩ := edge_leaderGraph.1 h
  obtain ⟨_, hl, hlv⟩ := Graph.mem_membersOf.1 hv
  obtain ⟨_, hlead, hmw⟩ := Graph.of_leaders_eq_some hm
  exact ⟨hl, hlead, (hlv.1.tail hw).trans hmw.2⟩

/-- From a leader the graph of leaders leads to leaders, and only where the graph does. -/
theorem reaches_of_reaches_leaderGraph {l m : Nat} (hl : graph.IsLeader l)
    (h : (leaderGraph graph graph.leaders).Reaches l m) :
    graph.IsLeader m ∧ graph.Reaches l m := by
  induction h with
  | refl => exact ⟨hl, .refl⟩
  | tail _ he ih =>
    obtain ⟨_, hm, hr⟩ := reaches_of_edge_leaderGraph he
    exact ⟨hm, ih.2.trans hr⟩

/-! ## The order of the nodes -/

/-- The leaders in the order in which the walk leaves them. -/
def Graph.leaderOrder (graph : Graph) : List Nat :=
  (leaderGraph graph graph.leaders).postorder graph.leaders

/-- Leaders are nodes of the graph of leaders. -/
theorem lt_length_leaderGraph :
    ∀ r ∈ graph.leaders, r < (leaderGraph graph graph.leaders).length := by
  intro r hr
  simpa [leaderGraph] using (Graph.isLeader_of_mem_leaders hr).lt_length

/-- The walk leaves exactly the leaders. -/
theorem Graph.mem_leaderOrder {l : Nat} : l ∈ graph.leaderOrder ↔ graph.IsLeader l := by
  constructor
  · intro h
    obtain ⟨r, hr, hreach⟩ :=
      Graph.reaches_of_mem_postorder isClosed_leaderGraph lt_length_leaderGraph h
    exact (reaches_of_reaches_leaderGraph (Graph.isLeader_of_mem_leaders hr) hreach).1
  · intro h
    have hself := (Graph.leaders_eq_some_iff h.lt_length).2 ⟨h, .refl graph l⟩
    exact Graph.mem_postorder_of_mem isClosed_leaderGraph lt_length_leaderGraph
      (List.mem_of_getElem? hself)

theorem Graph.nodup_leaderOrder : graph.leaderOrder.Nodup :=
  Graph.nodup_postorder isClosed_leaderGraph lt_length_leaderGraph

theorem Graph.order_eq (graph : Graph) :
    graph.order = graph.leaderOrder.flatMap (membersOf graph.leaders) := rfl

/-- The order has every node once. -/
theorem Graph.order_perm (graph : Graph) : graph.order.Perm (List.range graph.length) := by
  have hnodup : graph.order.Nodup := by
    rw [order_eq, List.nodup_flatMap]
    refine ⟨fun l _ => (Graph.membersOf_sublist_range l).nodup List.nodup_range, ?_⟩
    refine Graph.nodup_leaderOrder.imp_of_mem fun {l m} _ _ hne v hvl hvm => hne ?_
    obtain ⟨_, hl, hlv⟩ := Graph.mem_membersOf.1 hvl
    obtain ⟨_, hm, hmv⟩ := Graph.mem_membersOf.1 hvm
    exact hl.eq hm (hlv.trans hmv.symm)
  refine (List.perm_ext_iff_of_nodup hnodup List.nodup_range).2 fun v => ?_
  rw [order_eq, List.mem_flatMap, List.mem_range]
  constructor
  · rintro ⟨l, _, hv⟩
    exact (Graph.mem_membersOf.1 hv).1
  · intro hv
    obtain ⟨l, _, hl, hc⟩ := graph.exists_leader hv
    exact ⟨l, Graph.mem_leaderOrder.2 hl, Graph.mem_membersOf.2 ⟨hv, hl, hc⟩⟩

/-- A component stands together in the order. -/
theorem Graph.membersOf_infix_order {l : Nat} (h : graph.IsLeader l) :
    membersOf graph.leaders l <:+: graph.order := by
  obtain ⟨before, after, he⟩ := List.append_of_mem (Graph.mem_leaderOrder.2 h)
  refine ⟨before.flatMap (membersOf graph.leaders), after.flatMap (membersOf graph.leaders), ?_⟩
  simp [order_eq, he]

/-- The end of an edge stands before its start in the order, unless it reaches it. -/
theorem Graph.order_of_edge (hg : graph.isClosed) {a b : Nat} (he : graph.Edge a b) :
    [b, a].Sublist graph.order ∨ graph.Reaches b a := by
  have hb := he.lt_length_of_isClosed hg
  obtain ⟨l, hla, hl, hlc⟩ := graph.exists_leader he.lt_length
  obtain ⟨m, hmb, hm, hmc⟩ := graph.exists_leader hb
  by_cases hlm : m = l
  · rw [hlm] at hmc
    exact Or.inr (hmc.2.trans hlc.1)
  · have hal : a ∈ membersOf graph.leaders l := Graph.mem_membersOf.2 ⟨he.lt_length, hl, hlc⟩
    have hbm : b ∈ membersOf graph.leaders m := Graph.mem_membersOf.2 ⟨hb, hm, hmc⟩
    have hedge : (leaderGraph graph graph.leaders).Edge l m :=
      edge_leaderGraph.2 ⟨hlm, a, hal, b, he, hmb⟩
    rcases Graph.postorder_of_edge isClosed_leaderGraph lt_length_leaderGraph
        (Graph.mem_leaderOrder.2 hl) hedge with hs | hr
    · refine Or.inl (List.Sublist.trans ?_ (hs.flatMap (membersOf graph.leaders)))
      have hboth := (List.singleton_sublist.2 hbm).append (List.singleton_sublist.2 hal)
      simpa using hboth
    · exact Or.inr ((hmc.2.trans (reaches_of_reaches_leaderGraph hm hr).2).trans hlc.1)

end SchemaCodegen.Dependency
