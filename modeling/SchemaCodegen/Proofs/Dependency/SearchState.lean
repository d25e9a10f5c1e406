import Mathlib.Data.List.Basic
import Mathlib.Data.Nat.Basic
import SchemaCodegen.Proofs.Dependency.GraphWork

/-!
# Proofs: the state of the search for components

What each primitive of the search does to the marks, and the invariant of the search. A node is open
while it is on the stack, and the nodes of the frames are the path of the search. An open node
belongs to the latest node of the path that is not later than itself; when that node is left, either
all open nodes from it on are closed, or they go over to the node below it on the path.
-/

namespace SchemaCodegen.Dependency

variable {graph : Graph} {s : Search}

/-- The index of an entered node; 0 for any other. -/
def Mark.index : Mark → Nat
  | .entered index _ => index
  | _ => 0

/-- The low number of an entered node; 0 for any other. -/
def Mark.low : Mark → Nat
  | .entered _ low => low
  | _ => 0

namespace Search

/-- The index of a node. -/
def index (s : Search) (v : Nat) : Nat :=
  (s.mark v).index

/-- The low number of a node. -/
def low (s : Search) (v : Nat) : Nat :=
  (s.mark v).low

/-- The nodes that were entered and not left, the latest first. -/
def path (s : Search) : List Nat :=
  s.frames.map Frame.node

/-- An edge that the search looked at: no frame of its start has it among the edges still to look
at. -/
def Examined (graph : Graph) (s : Search) (a b : Nat) : Prop :=
  graph.Edge a b ∧ ∀ frame ∈ s.frames, frame.node = a → b ∉ frame.pending

/-- `p` is the latest node of the path that is not later than `x`. -/
structure Owns (s : Search) (p x : Nat) : Prop where
  /-- It is on the path. -/
  mem : p ∈ s.path
  /-- It is not later. -/
  le : s.index p ≤ s.index x
  /-- No other such node is later. -/
  latest : ∀ q ∈ s.path, s.index q ≤ s.index x → s.index q ≤ s.index p

/-! ## The invariant -/

/-- The part of the invariant about closed nodes. -/
structure ClosedSound (graph : Graph) (s : Search) : Prop where
  /-- Edges of closed nodes lead to closed nodes. -/
  closed_next : ∀ v c w, s.mark v = .closed c → graph.Edge v w → ∃ d, s.mark w = .closed d
  /-- Component numbers are below the number of components. -/
  closed_lt : ∀ v c, v < graph.length → s.mark v = .closed c → c < s.components
  /-- Every component has a member. -/
  closed_used : ∀ c < s.components, ∃ v < graph.length, s.mark v = .closed c
  /-- Two closed nodes have one number exactly if each reaches the other. -/
  closed_iff : ∀ v w c d, v < graph.length → w < graph.length → s.mark v = .closed c →
    s.mark w = .closed d → (c = d ↔ graph.Connected v w)

/-- The invariant of the search. -/
structure Sound (graph : Graph) (s : Search) : Prop extends ClosedSound graph s where
  /-- Every node has a mark. -/
  length_marks : s.marks.length = graph.length
  /-- The nodes on the stack are the entered ones. -/
  mem_stack : ∀ v, v ∈ s.stack ↔ ∃ i l, s.mark v = .entered i l
  /-- The latest node is on top of the stack. -/
  sorted : s.stack.Pairwise fun v w => s.index w < s.index v
  /-- Indexes are below the counter. -/
  index_lt : ∀ v ∈ s.stack, s.index v < s.counter
  /-- The path lies on the stack. -/
  path_sublist : s.path.Sublist s.stack
  /-- What is still to look at is an edge. -/
  edge_pending : ∀ frame ∈ s.frames, ∀ w ∈ frame.pending, graph.Edge frame.node w
  /-- A node of the path reaches every open node that is not earlier. -/
  reaches : ∀ p ∈ s.path, ∀ x ∈ s.stack, s.index p ≤ s.index x → graph.Reaches p x
  /-- Every open node has a node of the path that is not later. -/
  owned : ∀ x ∈ s.stack, ∃ p ∈ s.path, s.index p ≤ s.index x
  /-- Low numbers do not exceed indexes. -/
  low_le : ∀ x ∈ s.stack, s.low x ≤ s.index x
  /-- A low number is the index of an open node that is reached. -/
  low_reaches : ∀ x ∈ s.stack, ∃ w ∈ s.stack, s.index w = s.low x ∧ graph.Reaches x w
  /-- A node that was left and is still open has found a way to an earlier one. -/
  low_lt : ∀ x ∈ s.stack, x ∉ s.path → s.low x < s.index x
  /-- The end of an examined edge was entered. -/
  examined_seen : ∀ x ∈ s.stack, ∀ w, Examined graph s x w → s.mark w ≠ .unseen
  /-- The low number of a node of the path takes account of the examined edges of its own nodes. -/
  examined_low : ∀ p x w, s.Owns p x → x ∈ s.stack → w ∈ s.stack → Examined graph s x w →
    s.low p ≤ s.index w

/-- A state with the same closed nodes keeps what holds of them. -/
theorem ClosedSound.of_mark_iff {t : Search} (h : s.ClosedSound graph)
    (hmark : ∀ v c, t.mark v = .closed c ↔ s.mark v = .closed c)
    (hcount : t.components = s.components) : t.ClosedSound graph := by
  refine { closed_next := ?_, closed_lt := ?_, closed_used := ?_, closed_iff := ?_ }
  · -- closed_next
    intro v c w hv he
    obtain ⟨d, hd⟩ := h.closed_next v c w ((hmark v c).1 hv) he
    exact ⟨d, (hmark w d).2 hd⟩
  · -- closed_lt
    intro v c hlt hv
    rw [hcount]
    exact h.closed_lt v c hlt ((hmark v c).1 hv)
  · -- closed_used
    intro c hc
    rw [hcount] at hc
    obtain ⟨v, hlt, hv⟩ := h.closed_used c hc
    exact ⟨v, hlt, (hmark v c).2 hv⟩
  · -- closed_iff
    intro v w c d hvl hwl hv hw
    exact h.closed_iff v w c d hvl hwl ((hmark v c).1 hv) ((hmark w d).1 hw)

/-! ## Marks -/

/-- Only a node of the graph is without a mark of a component. -/
theorem lt_length_of_mark {v : Nat} (h : ∀ c, s.mark v ≠ .closed c) : v < s.marks.length := by
  by_contra hn
  refine h 0 ?_
  rw [mark, List.getElem?_eq_none (by omega)]
  rfl

theorem mark_set {v : Nat} (hv : v < s.marks.length) (m : Mark) (x : Nat) :
    (s.marks.set v m)[x]?.getD (.closed 0) = if x = v then m else s.mark x := by
  rw [List.getElem?_set]
  by_cases h : x = v
  · subst h
    simp [hv]
  · rw [if_neg (Ne.symm h), if_neg h, mark]

theorem mark_enter {c : Nat} (hc : s.mark c = .unseen) (x : Nat) :
    (s.enter graph c).mark x = if x = c then .entered s.counter s.counter else s.mark x :=
  mark_set (lt_length_of_mark (by simp [hc])) _ x

theorem mark_lowerTo {v i l : Nat} (hv : s.mark v = .entered i l) (bound x : Nat) :
    (s.lowerTo bound v).mark x = if x = v then .entered i (min l bound) else s.mark x := by
  rw [lowerTo, hv]
  exact mark_set (lt_length_of_mark (by simp [hv])) _ x

theorem length_closeAll (c : Nat) (marks : List Mark) (nodes : List Nat) :
    (closeAll c marks nodes).length = marks.length := by
  induction nodes generalizing marks with
  | nil => rfl
  | cons v nodes ih => exact (ih (marks.set v (.closed c))).trans (by simp)

theorem getElem?_closeAll {c : Nat} {marks : List Mark} {nodes : List Nat}
    (h : ∀ v ∈ nodes, v < marks.length) (x : Nat) :
    (closeAll c marks nodes)[x]? = if x ∈ nodes then some (.closed c) else marks[x]? := by
  induction nodes generalizing marks with
  | nil => simp [closeAll]
  | cons v nodes ih =>
    have hv : v < marks.length := h v (by simp)
    have hn : ∀ w ∈ nodes, w < (marks.set v (.closed c)).length := by
      intro w hw
      simpa using h w (by simp [hw])
    have hstep : closeAll c marks (v :: nodes) = closeAll c (marks.set v (.closed c)) nodes := rfl
    rw [hstep, ih hn]
    by_cases hx : x ∈ nodes
    · simp [hx]
    · rw [if_neg hx, List.getElem?_set]
      by_cases hxv : v = x
      · subst hxv
        simp [hv]
      · simp [hx, hxv, Ne.symm hxv]

/-- A stack is cut right below the given node. -/
theorem cutBelow_append {v : Nat} {top : List Nat} (h : v ∉ top) (rest : List Nat) :
    cutBelow v (top ++ v :: rest) = (top ++ [v], rest) := by
  induction top with
  | nil => simp [cutBelow]
  | cons u top ih =>
    have hu : u ≠ v := fun e => h (by simp [e])
    have ht : v ∉ top := fun hv => h (by simp [hv])
    simp [cutBelow, hu, ih ht]

/-- Cutting a stack loses nothing. -/
theorem append_cutBelow (v : Nat) (stack : List Nat) :
    (cutBelow v stack).1 ++ (cutBelow v stack).2 = stack := by
  induction stack with
  | nil => rfl
  | cons top rest ih =>
    rw [cutBelow]
    split
    · rfl
    · exact congrArg (top :: ·) ih

/-! ## What the invariant implies -/

namespace Sound

/-- Open nodes are told apart by their indexes. -/
theorem index_inj (h : s.Sound graph) {v w : Nat} (hv : v ∈ s.stack) (hw : w ∈ s.stack)
    (e : s.index v = s.index w) : v = w := by
  by_contra hne
  rcases List.pairwise_iff_getElem.1 h.sorted with hp
  obtain ⟨i, hi, rfl⟩ := List.getElem_of_mem hv
  obtain ⟨j, hj, rfl⟩ := List.getElem_of_mem hw
  rcases Nat.lt_trichotomy i j with hij | rfl | hij
  · exact absurd e (Nat.ne_of_gt (hp i j hi hj hij))
  · exact hne rfl
  · exact absurd e (Nat.ne_of_lt (hp j i hj hi hij))

theorem mem_stack_of_path (h : s.Sound graph) {p : Nat} (hp : p ∈ s.path) : p ∈ s.stack :=
  h.path_sublist.subset hp

theorem not_closed (h : s.Sound graph) {v : Nat} (hv : v ∈ s.stack) (c : Nat) :
    s.mark v ≠ .closed c := by
  obtain ⟨i, l, hm⟩ := (h.mem_stack v).1 hv
  simp [hm]

theorem lt_length (h : s.Sound graph) {v : Nat} (hv : v ∈ s.stack) : v < graph.length := by
  have hlt := lt_length_of_mark (h.not_closed hv)
  rwa [h.length_marks] at hlt

/-- A node of the path has one owner, itself. -/
theorem eq_of_owns (h : s.Sound graph) {p q : Nat} (hq : q ∈ s.path) (ho : s.Owns p q) : p = q :=
  h.index_inj (h.mem_stack_of_path ho.mem) (h.mem_stack_of_path hq)
    (Nat.le_antisymm ho.le (ho.latest q hq le_rfl))

theorem closed_reaches (h : s.Sound graph) {v w c : Nat} (hv : s.mark v = .closed c)
    (hr : graph.Reaches v w) : ∃ d, s.mark w = .closed d := by
  induction hr with
  | refl => exact ⟨c, hv⟩
  | tail _ edge ih =>
    obtain ⟨d, hd⟩ := ih
    exact h.closed_next _ d _ hd edge

/-- The nodes of the path get earlier from the top down. -/
theorem path_sorted (h : s.Sound graph) : s.path.Pairwise fun v w => s.index w < s.index v :=
  h.sorted.sublist h.path_sublist

/-- The nodes below the top of the path are earlier. -/
theorem index_lt_top (h : s.Sound graph) {top : Frame} {frames : List Frame}
    (hf : s.frames = top :: frames) {q : Nat} (hq : q ∈ frames.map Frame.node) :
    s.index q < s.index top.node := by
  have hp := h.path_sorted
  rw [path, hf, List.map_cons, List.pairwise_cons] at hp
  exact hp.1 q hq

/-- A node that the top of the path is not later than is owned by the top. -/
theorem owns_top (h : s.Sound graph) {top : Frame} {frames : List Frame}
    (hf : s.frames = top :: frames) {x : Nat} (hx : s.index top.node ≤ s.index x) :
    s.Owns top.node x := by
  refine ⟨by simp [path, hf], hx, fun q hq _ => ?_⟩
  rw [path, hf, List.map_cons, List.mem_cons] at hq
  rcases hq with rfl | hq
  · exact le_rfl
  · exact Nat.le_of_lt (h.index_lt_top hf hq)

/-- The top of the path, and every node that left it, has no edge still to look at, once the frame
of the top has none. -/
theorem examined_of_top (h : s.Sound graph) {v : Nat} {frames : List Frame}
    (hf : s.frames = ⟨v, []⟩ :: frames) {x w : Nat} (hx : s.index v ≤ s.index x)
    (he : graph.Edge x w) : Examined graph s x w := by
  refine ⟨he, fun frame hframe hnode => ?_⟩
  rw [hf] at hframe
  rcases List.mem_cons.1 hframe with rfl | hframe
  · simp
  · have hlt := h.index_lt_top hf (List.mem_map_of_mem hframe)
    rw [hnode] at hlt
    exact absurd hlt (Nat.not_lt.2 hx)

end Sound

end Search

end SchemaCodegen.Dependency
