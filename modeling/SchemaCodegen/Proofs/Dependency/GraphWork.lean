import Mathlib.Algebra.GroupWithZero.Nat
import Mathlib.Algebra.Order.BigOperators.Group.List
import Mathlib.Algebra.Order.Group.Nat
import SchemaCodegen.Dependency.Component

/-!
# Proofs: edges of a graph and the work of a depth-first search

A search takes one step for each edge and one to leave each node. What it still has to do is told by
its frames and by the nodes that it has not entered.
-/

namespace SchemaCodegen.Dependency

/-! ## Edges -/

/-- Only a node of the graph has edges. -/
theorem Graph.Edge.lt_length {graph : Graph} {a b : Nat} (h : graph.Edge a b) :
    a < graph.length := by
  by_contra hn
  rw [Graph.Edge, Graph.next, List.getElem?_eq_none (by omega)] at h
  exact absurd h (by simp)

theorem Graph.Edge.lt_length_of_isClosed {graph : Graph} (hg : graph.isClosed) {a b : Nat}
    (h : graph.Edge a b) : b < graph.length := by
  have hmem : graph.next a ∈ graph := by
    rw [Graph.next, List.getElem?_eq_getElem h.lt_length, Option.getD_some]
    exact List.getElem_mem _
  simp only [Graph.isClosed, List.all_eq_true, decide_eq_true_eq] at hg
  exact hg _ hmem b h

theorem Graph.isClosed_of_edge {graph : Graph}
    (h : ∀ a b, graph.Edge a b → b < graph.length) : graph.isClosed := by
  simp only [isClosed, List.all_eq_true, decide_eq_true_eq]
  intro nodes hnodes b hb
  obtain ⟨a, ha, rfl⟩ := List.getElem_of_mem hnodes
  refine h a b ?_
  rwa [Edge, next, List.getElem?_eq_getElem ha]

/-! ## Work -/

/-- The steps that a node takes: one for each edge, and one to leave it. -/
def Graph.cost (graph : Graph) (v : Nat) : Nat :=
  (graph.next v).length + 1

/-- The steps that the nodes of a kind take. -/
def Graph.workOf (graph : Graph) (p : Nat → Bool) : Nat :=
  (((List.range graph.length).filter p).map graph.cost).sum

/-- The steps that frames still take. -/
def frameWork (frames : List Frame) : Nat :=
  (frames.map fun frame => frame.pending.length + 1).sum

@[simp]
theorem frameWork_nil : frameWork [] = 0 := rfl

@[simp]
theorem frameWork_cons (frame : Frame) (frames : List Frame) :
    frameWork (frame :: frames) = frame.pending.length + 1 + frameWork frames := rfl

/-- Only without frames nothing is left to do. -/
theorem eq_nil_of_frameWork {frames : List Frame} (h : frameWork frames = 0) : frames = [] := by
  cases frames with
  | nil => rfl
  | cons frame frames =>
    rw [frameWork_cons] at h
    omega

/-- The work of a graph is that of all its nodes. -/
theorem Graph.work_eq (graph : Graph) : graph.work = graph.workOf fun _ => true := by
  have hsum : ∀ lists : List (List Nat), Graph.work lists =
      (lists.map fun nodes => nodes.length + 1).sum := by
    intro lists
    induction lists with
    | nil => rfl
    | cons nodes lists ih => exact congrArg (nodes.length + 1 + ·) ih
  have hmap : graph.map (fun nodes => nodes.length + 1) =
      (List.range graph.length).map graph.cost := by
    refine List.ext_getElem (by simp) fun i hi _ => ?_
    simp only [List.length_map] at hi
    simp [Graph.cost, Graph.next, List.getElem?_eq_getElem hi]
  rw [hsum, hmap, workOf, List.filter_true]

theorem Graph.workOf_mono (graph : Graph) {p q : Nat → Bool} (h : ∀ v, p v → q v) :
    graph.workOf p ≤ graph.workOf q := by
  have hsub : ((List.range graph.length).filter p).Sublist ((List.range graph.length).filter q) :=
    List.monotone_filter_right _ h
  exact (hsub.map graph.cost).sum_le_sum fun _ _ => Nat.zero_le _

/-- A node that leaves a kind takes its steps with it. -/
theorem Graph.workOf_remove (graph : Graph) {p q : Nat → Bool} {c : Nat}
    (hc : c < graph.length) (hp : p c) (hq : ∀ v, q v → p v ∧ v ≠ c) :
    graph.cost c + graph.workOf q ≤ graph.workOf p := by
  have hmem : c ∈ (List.range graph.length).filter p := by simp [hc, hp]
  have hnodup : ((List.range graph.length).filter p).Nodup := List.nodup_range.filter p
  have hsub : ((List.range graph.length).filter q).Sublist
      (((List.range graph.length).filter p).erase c) := by
    rw [hnodup.erase_eq_filter, List.filter_filter]
    refine List.monotone_filter_right _ fun v hv => ?_
    simp [hq v hv]
  calc graph.cost c + graph.workOf q
      ≤ graph.cost c + ((((List.range graph.length).filter p).erase c).map graph.cost).sum :=
        Nat.add_le_add_left ((hsub.map graph.cost).sum_le_sum fun _ _ => Nat.zero_le _) _
    _ = graph.workOf p := List.sum_map_erase graph.cost hmem

end SchemaCodegen.Dependency
