import SchemaCodegen.Proofs.Dependency.Leaders
import SchemaCodegen.Proofs.Dependency.Recursion
import SchemaCodegen.Proofs.Dependency.SearchJournal

/-!
# Proofs: the walk over the components never fails

The walk over the components knows their followers and their members, and fails if it asks for those
of a node that leads no component. Its steps are made one by one, with no bound on their number.
Main statement: the search of a graph and the walk over its components run to their ends without
failing; every node was put on the stack of the search once and taken off once, and every component
was put on the path of the walk once and left once.
-/

namespace SchemaCodegen.Dependency

namespace Walk

variable {graph : Graph} {items : List Nat} {w : Walk}

/-! ## The loops -/

/-- Visits a node if it is one of the items. -/
def visit? (graph : Graph) (items : List Nat) (w : Walk) (node : Nat) : Option Walk :=
  if items.contains node then some (w.visit graph node) else none

/-- Leaves the topmost node, whose frame is already taken off, if it is one of the items. -/
def leave? (items : List Nat) (w : Walk) (node : Nat) : Option Walk :=
  if items.contains node then some { w with left := node :: w.left } else none

/-- Visits a node unless it was visited before. -/
def look? (graph : Graph) (items : List Nat) (w : Walk) (node : Nat) : Option Walk :=
  if w.visited.contains node then some w else w.visit? graph items node

/-- Looks at the next edge of the topmost node, or leaves it. -/
def step? (graph : Graph) (items : List Nat) (w : Walk) : Option Walk :=
  match w.frames with
  | [] => none
  | ⟨node, []⟩ :: frames => { w with frames := frames }.leave? items node
  | ⟨node, child :: pending⟩ :: frames =>
    { w with frames := ⟨node, pending⟩ :: frames }.look? graph items child

/-- The loops of the walk: for each root, steps are made as long as there is a frame. -/
def loop (graph : Graph) (items : List Nat) : NestedLoop Walk where
  isIdle w := w.frames.isEmpty
  tryRoot? := look? graph items
  turn? := step? graph items

/-! ## The loops are safe -/

/-- Nodes of a graph that its edges do not leave. -/
structure IsItems (graph : Graph) (items : List Nat) : Prop where
  /-- Items are nodes of the graph. -/
  lt_length : ∀ v ∈ items, v < graph.length
  /-- Edges end at items. -/
  mem_of_edge : ∀ a b, graph.Edge a b → b ∈ items

theorem IsItems.isClosed (h : IsItems graph items) : graph.isClosed :=
  Graph.isClosed_of_edge fun a b he => h.lt_length b (h.mem_of_edge a b he)

/-- The invariant of a walk among items. -/
structure Among (graph : Graph) (items : List Nat) (w : Walk) : Prop
    extends w.Sound graph items where
  /-- No node was visited twice. -/
  nodup_visited : w.visited.Nodup
  /-- Only items were visited. -/
  visited_subset : ∀ v ∈ w.visited, v ∈ items
  /-- No more is left to do than the work of the graph. -/
  remaining_le : w.remaining graph ≤ graph.work

theorem visit?_eq {v : Nat} (hv : v ∈ items) : w.visit? graph items v = some (w.visit graph v) :=
  if_pos (List.contains_iff_mem.2 hv)

theorem look?_of_visited {v : Nat} (hv : v ∈ w.visited) : w.look? graph items v = some w :=
  if_pos (List.contains_iff_mem.2 hv)

theorem look?_of_not_visited {v : Nat} (hv : v ∉ w.visited) (hitem : v ∈ items) :
    w.look? graph items v = some (w.visit graph v) :=
  (if_neg fun hm => hv (List.contains_iff_mem.1 hm)).trans (visit?_eq hitem)

/-- A step is made without failing as long as there is a frame, and visits no node twice. -/
theorem Among.step?_eq (hitems : IsItems graph items) (h : w.Among graph items)
    (hf : w.frames ≠ []) :
    w.step? graph items = some (w.step graph) ∧ (w.step graph).visited.Nodup ∧
      ∀ v ∈ (w.step graph).visited, v ∈ items := by
  cases hframes : w.frames with
  | nil => exact absurd hframes hf
  | cons top frames =>
    obtain ⟨v, pending⟩ := top
    cases pending with
    | nil =>
      have hvisited : v ∈ w.visited := (h.mem_visited v).2 (Or.inl (by simp [path, hframes]))
      have hitem := List.contains_iff_mem.2 (h.visited_subset v hvisited)
      rw [step?, hframes, step_of_pending_nil graph hframes]
      exact ⟨if_pos hitem, h.nodup_visited, h.visited_subset⟩
    | cons c pending =>
      have hedge : graph.Edge v c :=
        h.edge_pending ⟨v, c :: pending⟩ (by simp [hframes]) c (by simp)
      have hitem := hitems.mem_of_edge v c hedge
      rw [step?, hframes]
      by_cases hc : c ∈ w.visited
      · rw [step_of_visited graph hframes hc]
        exact ⟨look?_of_visited hc, h.nodup_visited, h.visited_subset⟩
      · rw [step_of_not_visited graph hframes hc]
        exact ⟨look?_of_not_visited hc hitem, List.nodup_cons.2 ⟨hc, h.nodup_visited⟩,
          List.forall_mem_cons.2 ⟨hitem, h.visited_subset⟩⟩

/-- After a step a walk that has no more to do than the given number of steps ends as before. -/
theorem steps_step (hg : graph.isClosed) (h : w.Sound graph items) {n : Nat}
    (hn : w.remaining graph ≤ n) : (w.step graph).steps graph n = w.steps graph n := by
  have hend := (frames_steps hg h hn).1
  calc (w.step graph).steps graph n
      = (w.steps graph n).steps graph 1 := steps_add n 1 w
    _ = w.steps graph n := steps_of_frames_nil hend 1

theorem isSafe_loop (hitems : IsItems graph items) :
    (loop graph items).IsSafe items (Among graph items) (fun w => w.remaining graph)
      (fun w => w.steps graph graph.work) (startAt graph) where
  root w h hidle root hroot := by
    have hf : w.frames = [] := List.isEmpty_iff.1 hidle
    rw [steps_of_frames_nil hf, startAt]
    by_cases hv : root ∈ w.visited
    · rw [if_pos (List.contains_iff_mem.2 hv)]
      exact ⟨w, look?_of_visited hv, h, steps_of_frames_nil hf _⟩
    · rw [if_neg fun hm => hv (List.contains_iff_mem.1 hm)]
      refine ⟨_, look?_of_not_visited hv hroot, ?_, rfl⟩
      have hless := remaining_visit hv (hitems.lt_length root hroot)
      exact
        { toSound := h.toSound.visit hv ⟨root, hroot, .refl⟩ (by simp [path, hf])
          nodup_visited := List.nodup_cons.2 ⟨hv, h.nodup_visited⟩
          visited_subset := List.forall_mem_cons.2 ⟨hroot, h.visited_subset⟩
          remaining_le := Nat.le_trans hless h.remaining_le }
  turn w h hidle := by
    have hf : w.frames ≠ [] := fun he => hidle (List.isEmpty_iff.2 he)
    obtain ⟨hstep, hnodup, hsubset⟩ := h.step?_eq hitems hf
    have hless := remaining_step hitems.isClosed h.toSound hf
    refine ⟨_, hstep, ?_, hless, steps_step hitems.isClosed h.toSound h.remaining_le⟩
    exact
      { toSound := h.toSound.step
        nodup_visited := hnodup
        visited_subset := hsubset
        remaining_le := Nat.le_trans hless.le h.remaining_le }

theorem among_empty (graph : Graph) (items : List Nat) : ({} : Walk).Among graph items where
  toSound := sound_empty graph items
  nodup_visited := List.nodup_nil
  visited_subset := List.forall_mem_nil _
  remaining_le := remaining_le_work rfl

/-! ## The whole walk -/

/-- What a walk shows at any time. -/
structure IsConsistent (w : Walk) : Prop where
  /-- No node was visited twice. -/
  nodup : w.visited.Nodup
  /-- Every node that was visited is on the path or was left. -/
  perm : w.visited.Perm (w.path ++ w.left)

theorem Among.isConsistent (h : w.Among graph items) : w.IsConsistent where
  nodup := h.nodup_visited
  perm := (List.perm_ext_iff_of_nodup h.nodup_visited h.nodup).2 fun v =>
    (h.mem_visited v).trans List.mem_append.symm

end Walk

variable {graph : Graph}

/-- The walk over the components of a graph, each told by its leader: the states that it goes
through, and the last one. -/
structure Graph.IsWalked (graph : Graph) (states : List Walk) (last : Walk) : Prop where
  /-- The loops run to their ends without failing. -/
  runs : (Walk.loop (leaderGraph graph graph.leaders) graph.leaders).Runs {} graph.leaders
    states last
  /-- The states are consistent at any time. -/
  consistent : ∀ w ∈ states, w.IsConsistent
  /-- The nodes are put in order as the components are left. -/
  order_eq : graph.order = last.left.reverse.flatMap (membersOf graph.leaders)
  /-- Every component was visited once. -/
  visited : last.visited.Nodup ∧ ∀ l, l ∈ last.visited ↔ graph.IsLeader l
  /-- Every component was left once. -/
  left : last.left.Nodup ∧ ∀ l, l ∈ last.left ↔ graph.IsLeader l

theorem isItems_leaders : Walk.IsItems (leaderGraph graph graph.leaders) graph.leaders where
  lt_length := lt_length_leaderGraph
  mem_of_edge _ _ he := by
    have hlead := (reaches_of_edge_leaderGraph he).2.1
    exact List.mem_of_getElem? ((Graph.leaders_eq_some_iff hlead.lt_length).2 ⟨hlead, .refl _ _⟩)

theorem Graph.exists_isWalked (graph : Graph) : ∃ states last, graph.IsWalked states last := by
  have hitems : Walk.IsItems (leaderGraph graph graph.leaders) graph.leaders := isItems_leaders
  obtain ⟨states, last, hruns, hamong, hresult⟩ :=
    (Walk.isSafe_loop hitems).runsToEnd (fun _ hr => hr) (Walk.among_empty _ _)
  have hlast := hamong last hruns.last_mem
  have hf : last.frames = [] := List.isEmpty_iff.1 hruns.isIdle_last
  have hwalk : last = graph.leaders.foldl (Walk.startAt (leaderGraph graph graph.leaders)) {} := by
    dsimp only at hresult
    rwa [Walk.steps_of_frames_nil hf, Walk.steps_of_frames_nil rfl] at hresult
  have hleft : last.visited.Perm last.left := by
    have hperm := hlast.isConsistent.perm
    rwa [Walk.path, hf, List.map_nil, List.nil_append] at hperm
  have horder : last.left.reverse = graph.leaderOrder := by
    rw [hwalk]
    rfl
  have hmem : ∀ l, l ∈ last.left ↔ graph.IsLeader l := by
    intro l
    rw [← List.mem_reverse, horder]
    exact Graph.mem_leaderOrder
  exact ⟨states, last,
    { runs := hruns
      consistent := fun w hw => (hamong w hw).isConsistent
      order_eq := by rw [horder, Graph.order_eq]
      visited := ⟨hlast.nodup_visited, fun l => hleft.mem_iff.trans (hmem l)⟩
      left := ⟨hleft.nodup hlast.nodup_visited, hmem⟩ }⟩

/-- The search of a graph and the walk over its components run to their ends without failing. -/
theorem Graph.isSearched_and_isWalked (hg : graph.isClosed) :
    (∃ states last, graph.IsSearched states last) ∧ ∃ states last, graph.IsWalked states last :=
  ⟨graph.exists_isSearched hg, graph.exists_isWalked⟩

/-- Two circles, the second of which leads to the first. -/
theorem Graph.isSearched_and_isWalked_circles :
    Graph.isClosed [[1], [0], [1, 3], [2]] ∧
      (∃ states last, Graph.IsSearched [[1], [0], [1, 3], [2]] states last) ∧
        ∃ states last, Graph.IsWalked [[1], [0], [1, 3], [2]] states last :=
  ⟨by decide, Graph.isSearched_and_isWalked (by decide)⟩

end SchemaCodegen.Dependency
