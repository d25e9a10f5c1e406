import SchemaCodegen.Proofs.Dependency.Leaders
import SchemaCodegen.Proofs.Dependency.Recursion

/-!
# Proofs: the order of components does not depend on their numbers

The walk over the leaders follows the recursive definition, since the graph of leaders has no
circles. The same walk may be made over component numbers, with the components that one refers to in
the order of their first nodes. Whatever numbers tell the components, it brings the nodes into the
same order: the recursive definition gives one result, and it does not see how items are called.
-/

namespace SchemaCodegen.Dependency

variable {graph : Graph}

/-! ## The walk over the leaders -/

/-- No two components refer to each other in turn. -/
theorem isAcyclic_leaderGraph : (leaderGraph graph graph.leaders).IsAcyclic := by
  intro l m hedge hback
  obtain ⟨hl, hm, hlm⟩ := reaches_of_edge_leaderGraph hedge
  obtain ⟨_, hml⟩ := reaches_of_reaches_leaderGraph hm hback
  exact (edge_leaderGraph.1 hedge).1 (hm.eq hl ⟨hml, hlm⟩)

/-- The leaders are left in the order of the recursive definition. -/
theorem Graph.visits_leaders (graph : Graph) :
    Visits (leaderGraph graph graph.leaders).next [] graph.leaders graph.leaderOrder :=
  Graph.visits_postorder isClosed_leaderGraph isAcyclic_leaderGraph lt_length_leaderGraph

/-- The first nodes of the components, in increasing order. -/
def Graph.firstNodes (graph : Graph) : List Nat :=
  (List.range graph.length).filter fun v => graph.leaders[v]? == some v

theorem Graph.leaders_eq_some_self_iff {l : Nat} :
    graph.leaders[l]? = some l ↔ graph.IsLeader l := by
  constructor
  · intro h
    exact (Graph.of_leaders_eq_some h).2.1
  · intro h
    exact (Graph.leaders_eq_some_iff h.lt_length).2 ⟨h, .refl graph l⟩

theorem Graph.mem_firstNodes {l : Nat} : l ∈ graph.firstNodes ↔ graph.IsLeader l := by
  rw [firstNodes, List.mem_filter, List.mem_range, beq_iff_eq, leaders_eq_some_self_iff]
  exact and_iff_right_of_imp IsLeader.lt_length

theorem Graph.pairwise_firstNodes (graph : Graph) : graph.firstNodes.Pairwise (· < ·) :=
  List.pairwise_lt_range.sublist List.filter_sublist

/-- It makes no difference whether every node asks for its leader, or the first nodes only: all
others ask for one that was visited before. -/
theorem Graph.visits_firstNodes (graph : Graph) :
    Visits (leaderGraph graph graph.leaders).next [] graph.firstNodes graph.leaderOrder := by
  have hfront : ∀ k ≤ graph.length, ∀ out,
      Visits (leaderGraph graph graph.leaders).next [] (graph.leaders.take k) out →
        Visits (leaderGraph graph graph.leaders).next []
          ((List.range k).filter fun v => graph.leaders[v]? == some v) out := by
    intro k
    induction k with
    | zero => exact fun _ out h => h
    | succ k ih =>
      intro hk out h
      obtain ⟨l, hat, hlead, hc⟩ := graph.exists_leader hk
      rw [List.take_add_one, hat, Visits.append_iff] at h
      obtain ⟨mid, hmid, hlast⟩ := h
      rw [List.range_succ, List.filter_append, Visits.append_iff]
      refine ⟨mid, ih (by omega) mid hmid, ?_⟩
      by_cases hself : l = k
      · rw [List.filter_cons_of_pos (by simp [hat, hself])]
        exact hself ▸ hlast
      · have hle : l ≤ k := hlead.le_of_connected k hk hc
        have hmem : l ∈ graph.leaders.take k := by
          refine List.mem_of_getElem? (i := l) ?_
          rw [List.getElem?_take_of_lt (by omega)]
          exact Graph.leaders_eq_some_self_iff.2 hlead
        have hout : mid = out :=
          (Visits.of_subset (List.forall_mem_singleton.2 (hmid.mem_out l hmem))).unique hlast
        rw [List.filter_cons_of_neg (by simp [hat, hself]), hout]
        exact .nil out
  have hall := hfront graph.length le_rfl graph.leaderOrder
  rw [← graph.length_leaders, List.take_length, graph.length_leaders] at hall
  exact hall graph.visits_leaders

/-! ## The walk over numbers -/

/-- The number of a node. -/
def numberOf (numbers : List Nat) (v : Nat) : Nat :=
  numbers[v]?.getD 0

/-- The numbers of the other components that the component with a number refers to, in the order of
their first nodes. -/
def numbersReferenced (graph : Graph) (numbers : List Nat) (number : Nat) : List Nat :=
  (leadersReferenced graph (leadersOf numbers) (numbers.idxOf number)).map (numberOf numbers)

/-- The graph of numbers. -/
def numberGraph (graph : Graph) (numbers : List Nat) : Graph :=
  (List.range (numbers.foldr max 0 + 1)).map (numbersReferenced graph numbers)

/-- The nodes in the order of a walk over the numbers of their components. -/
def Graph.orderNumbered (graph : Graph) (numbers : List Nat) : List Nat :=
  ((numberGraph graph numbers).postorder numbers).flatMap (nodesNumbered numbers)

theorem le_foldr_max {number : Nat} {numbers : List Nat} (h : number ∈ numbers) :
    number ≤ numbers.foldr max 0 := by
  induction numbers with
  | nil => cases h
  | cons first numbers ih =>
    rw [List.foldr_cons]
    rcases List.mem_cons.1 h with rfl | h
    · exact Nat.le_max_left ..
    · exact Nat.le_trans (ih h) (Nat.le_max_right ..)

theorem lt_length_numberGraph {number : Nat} {numbers : List Nat} (h : number ∈ numbers) :
    number < (numberGraph graph numbers).length := by
  have hle := le_foldr_max h
  rw [numberGraph, List.length_map, List.length_range]
  omega

namespace Graph.IsNumbering

variable {numbers : List Nat} (h : graph.IsNumbering numbers)

include h

theorem getElem?_eq {v : Nat} (hv : v < graph.length) :
    numbers[v]? = some (numberOf numbers v) := by
  have hlt : v < numbers.length := h.length_eq ▸ hv
  rw [numberOf, List.getElem?_eq_getElem hlt, Option.getD_some]

/-- Nodes have one number exactly if they are connected. -/
theorem numberOf_eq_iff {v w : Nat} (hv : v < graph.length) (hw : w < graph.length) :
    numberOf numbers v = numberOf numbers w ↔ graph.Connected v w := by
  rw [← h.eq_iff v w hv hw, h.getElem?_eq hv, h.getElem?_eq hw, Option.some.injEq]

theorem numberOf_mem {v : Nat} (hv : v < graph.length) : numberOf numbers v ∈ numbers :=
  List.mem_of_getElem? (h.getElem?_eq hv)

/-- A leader is the first node with its number. -/
theorem idxOf_numberOf {l : Nat} (hl : graph.IsLeader l) :
    numbers.idxOf (numberOf numbers l) = l := by
  have hat : (leadersOf numbers)[l]? = some (numbers.idxOf (numberOf numbers l)) := by
    rw [leadersOf, List.getElem?_map, h.getElem?_eq hl.lt_length, Option.map_some]
  rw [h.leadersOf_eq, Graph.leaders_eq_some_self_iff.2 hl, Option.some.injEq] at hat
  exact hat.symm

/-- The followers of a leader's number are the numbers of its followers. -/
theorem next_numberGraph {l : Nat} (hl : graph.IsLeader l) :
    (numberGraph graph numbers).next (numberOf numbers l) =
      ((leaderGraph graph graph.leaders).next l).map (numberOf numbers) := by
  have hle := le_foldr_max (h.numberOf_mem hl.lt_length)
  rw [Graph.next, numberGraph, List.getElem?_map, List.getElem?_range (by omega), Option.map_some,
    Option.getD_some, numbersReferenced, h.idxOf_numberOf hl, h.leadersOf_eq,
    next_leaderGraph hl.lt_length]

/-- Only numbers of leaders have followers. -/
theorem exists_leader_of_edge {c d : Nat} (he : (numberGraph graph numbers).Edge c d) :
    ∃ l, graph.IsLeader l ∧ c = numberOf numbers l := by
  have hc : c < (numberGraph graph numbers).length := he.lt_length
  rw [numberGraph, List.length_map, List.length_range] at hc
  rw [Graph.Edge, Graph.next, numberGraph, List.getElem?_map, List.getElem?_range hc,
    Option.map_some, Option.getD_some, numbersReferenced, h.leadersOf_eq] at he
  obtain ⟨m, hm, _⟩ := List.mem_map.1 he
  have hl : graph.IsLeader (numbers.idxOf c) := by
    simp only [leadersReferenced, List.mem_filter, Bool.and_eq_true, List.contains_iff_mem,
      List.mem_filterMap, List.mem_flatMap] at hm
    obtain ⟨_, _, w, ⟨v, hv, _⟩, _⟩ := hm
    exact (Graph.mem_membersOf.1 hv).2.1
  have hlt : numbers.idxOf c < numbers.length := h.length_eq ▸ hl.lt_length
  refine ⟨numbers.idxOf c, hl, ?_⟩
  rw [numberOf, List.getElem?_idxOf (List.idxOf_lt_length_iff.1 hlt), Option.getD_some]

/-- From the number of a leader the graph leads to numbers of leaders that it leads to. -/
theorem exists_leader_of_reaches {l c : Nat} (hl : graph.IsLeader l)
    (hr : (numberGraph graph numbers).Reaches (numberOf numbers l) c) :
    ∃ m, graph.IsLeader m ∧ c = numberOf numbers m ∧
      (leaderGraph graph graph.leaders).Reaches l m := by
  induction hr with
  | refl => exact ⟨l, hl, rfl, .refl⟩
  | tail _ he ih =>
    obtain ⟨m, hm, rfl, hreach⟩ := ih
    rw [Graph.Edge, h.next_numberGraph hm] at he
    obtain ⟨k, hk, rfl⟩ := List.mem_map.1 he
    exact ⟨k, (reaches_of_edge_leaderGraph hk).2.1, rfl, hreach.tail hk⟩

theorem isAcyclic_numberGraph : (numberGraph graph numbers).IsAcyclic := by
  intro c d he hback
  obtain ⟨l, hl, rfl⟩ := h.exists_leader_of_edge he
  rw [Graph.Edge, h.next_numberGraph hl] at he
  obtain ⟨m, hedge, rfl⟩ := List.mem_map.1 he
  obtain ⟨k, hk, hsame, hreach⟩ :=
    h.exists_leader_of_reaches (reaches_of_edge_leaderGraph hedge).2.1 hback
  have hlk : l = k := by rw [← h.idxOf_numberOf hl, hsame, h.idxOf_numberOf hk]
  exact isAcyclic_leaderGraph l m hedge (hlk ▸ hreach)

theorem isClosed_numberGraph : (numberGraph graph numbers).isClosed := by
  refine Graph.isClosed_of_edge fun c d he => ?_
  obtain ⟨l, hl, rfl⟩ := h.exists_leader_of_edge he
  rw [Graph.Edge, h.next_numberGraph hl] at he
  obtain ⟨m, hedge, rfl⟩ := List.mem_map.1 he
  exact lt_length_numberGraph (h.numberOf_mem (reaches_of_edge_leaderGraph hedge).2.1.lt_length)

/-- Every node has the number of its leader. -/
theorem map_numberOf_leaders : graph.leaders.map (numberOf numbers) = numbers := by
  refine List.ext_getElem? fun v => ?_
  by_cases hv : v < graph.length
  · obtain ⟨l, hat, hl, hc⟩ := graph.exists_leader hv
    rw [List.getElem?_map, hat, Option.map_some, h.getElem?_eq hv,
      (h.numberOf_eq_iff hl.lt_length hv).2 hc]
  · have hlen := h.length_eq
    rw [List.getElem?_eq_none (by rw [List.length_map, graph.length_leaders]; omega),
      List.getElem?_eq_none (by omega)]

/-- The numbers are left in the order of their leaders. -/
theorem postorder_numberGraph :
    (numberGraph graph numbers).postorder numbers =
      graph.leaderOrder.map (numberOf numbers) := by
  have hnumbers := Graph.visits_postorder h.isClosed_numberGraph h.isAcyclic_numberGraph
    fun _ => lt_length_numberGraph
  have hleaders := graph.visits_leaders.map (p := graph.IsLeader) (numberOf numbers)
    (numberGraph graph numbers).next
    (fun _ _ _ hm => (reaches_of_edge_leaderGraph hm).2.1)
    (fun _ hl => h.next_numberGraph hl) ?_ (by simp) (fun _ => Graph.isLeader_of_mem_leaders)
  · rw [h.map_numberOf_leaders] at hleaders
    exact hnumbers.unique hleaders
  · intro l m hl hm hsame
    rw [← h.idxOf_numberOf hl, hsame, h.idxOf_numberOf hm]

/-- The nodes with the number of a leader are the members of its component. -/
theorem nodesNumbered_numberOf {l : Nat} (hl : graph.IsLeader l) :
    nodesNumbered numbers (numberOf numbers l) = membersOf graph.leaders l := by
  rw [membersOf, nodesNumbered, nodesNumbered, h.length_eq, graph.length_leaders]
  refine List.filter_congr fun v hv => ?_
  have hlt := List.mem_range.1 hv
  rw [Bool.eq_iff_iff, beq_iff_eq, beq_iff_eq, Graph.leaders_eq_some_iff hlt, h.getElem?_eq hlt,
    Option.some.injEq, h.numberOf_eq_iff hlt hl.lt_length]
  exact ⟨fun hc => ⟨hl, hc.symm⟩, fun hc => hc.2.symm⟩

/-- Whatever numbers tell the components, the order of the nodes is the same. -/
theorem orderNumbered_eq : graph.orderNumbered numbers = graph.order := by
  rw [Graph.orderNumbered, h.postorder_numberGraph, Graph.order_eq, List.flatMap_map]
  refine List.flatMap_congr fun l hl => ?_
  exact h.nodesNumbered_numberOf (Graph.mem_leaderOrder.1 hl)

end Graph.IsNumbering

end SchemaCodegen.Dependency
