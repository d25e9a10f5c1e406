import Mathlib.Data.List.Nodup
import SchemaCodegen.Dependency.Order
import SchemaCodegen.Proofs.Dependency.GraphWork

/-!
# Proofs: the order in which a walk leaves the nodes

A walk from some roots leaves every node that they reach, each once. When a node is left, all nodes
that follow it were visited, and the ones that were not left yet are below it on the path of the
walk. So of two nodes joined by an edge the end is left before the start, unless it reaches it.
-/

namespace SchemaCodegen.Dependency

namespace Walk

variable {graph : Graph} {roots : List Nat} {w : Walk}

/-- The nodes that were visited and not left, the latest first. -/
def path (w : Walk) : List Nat :=
  w.frames.map Frame.node

/-- The invariant of a walk from some of the roots. -/
structure Sound (graph : Graph) (roots : List Nat) (w : Walk) : Prop where
  /-- The visited nodes are those on the path and those that were left. -/
  mem_visited : ∀ v, v ∈ w.visited ↔ v ∈ w.path ∨ v ∈ w.left
  /-- No node is visited twice. -/
  nodup : (w.path ++ w.left).Nodup
  /-- Only what the roots reach is visited. -/
  reached : ∀ v ∈ w.visited, ∃ r ∈ roots, graph.Reaches r v
  /-- The nodes of the path reach those above them. -/
  chain : w.path.Pairwise fun upper lower => graph.Reaches lower upper
  /-- Of the nodes that follow a node of the path, those not still to look at were visited. -/
  looked : ∀ frame ∈ w.frames, ∀ c, graph.Edge frame.node c → c ∈ frame.pending ∨ c ∈ w.visited
  /-- What is still to look at is an edge. -/
  edge_pending : ∀ frame ∈ w.frames, ∀ c ∈ frame.pending, graph.Edge frame.node c
  /-- A node that follows one that was left was left before, or reaches it. -/
  ordered : ∀ a ∈ w.left, ∀ b, graph.Edge a b → [a, b].Sublist w.left ∨ graph.Reaches b a

/-! ## One step -/

/-- A node that was not visited may be visited if the path leads to it. -/
theorem Sound.visit (h : w.Sound graph roots) {c : Nat} (hc : c ∉ w.visited)
    (hr : ∃ r ∈ roots, graph.Reaches r c) (hp : ∀ p ∈ w.path, graph.Reaches p c) :
    (w.visit graph c).Sound graph roots := by
  have hnot : c ∉ w.path ++ w.left := fun hm => hc ((h.mem_visited c).2 (List.mem_append.1 hm))
  refine
    { mem_visited := ?_
      nodup := List.nodup_cons.2 ⟨hnot, h.nodup⟩
      reached := ?_
      chain := List.pairwise_cons.2 ⟨hp, h.chain⟩
      looked := ?_
      edge_pending := ?_
      ordered := h.ordered }
  · intro v
    show v ∈ c :: w.visited ↔ v ∈ c :: w.path ∨ v ∈ w.left
    rw [List.mem_cons, List.mem_cons, h.mem_visited v, or_assoc]
  · intro v hv
    rcases List.mem_cons.1 hv with rfl | hv
    · exact hr
    · exact h.reached v hv
  · intro frame hf d he
    rcases List.mem_cons.1 hf with rfl | hf
    · exact Or.inl he
    · exact (h.looked frame hf d he).imp_right (List.mem_cons_of_mem _)
  · intro frame hf d hd
    rcases List.mem_cons.1 hf with rfl | hf
    · exact hd
    · exact h.edge_pending frame hf d hd

/-- The frames may forget an edge whose end was visited. -/
theorem Sound.advance (h : w.Sound graph roots) (above : List Frame) {frames : List Frame}
    {p c : Nat} {pending : List Nat} (hf : w.frames = above ++ ⟨p, c :: pending⟩ :: frames)
    (hc : c ∈ w.visited) :
    Sound graph roots { w with frames := above ++ ⟨p, pending⟩ :: frames } := by
  have hpath : path { w with frames := above ++ ⟨p, pending⟩ :: frames } = w.path := by
    simp [path, hf]
  have hframe : ∀ frame ∈ above ++ ⟨p, pending⟩ :: frames,
      frame ∈ w.frames ∨ frame = ⟨p, pending⟩ := by
    intro frame hmem
    rw [List.mem_append, List.mem_cons] at hmem
    rcases hmem with hmem | hmem | hmem
    · exact Or.inl (by simp [hf, hmem])
    · exact Or.inr hmem
    · exact Or.inl (by simp [hf, hmem])
  refine
    { mem_visited := by rw [hpath]; exact h.mem_visited
      nodup := by rw [hpath]; exact h.nodup
      reached := h.reached
      chain := by rw [hpath]; exact h.chain
      looked := ?_
      edge_pending := ?_
      ordered := h.ordered }
  · intro frame hmem d he
    rcases hframe frame hmem with hmem | rfl
    · exact h.looked frame hmem d he
    · rcases h.looked ⟨p, c :: pending⟩ (by simp [hf]) d he with hd | hd
      · rcases List.mem_cons.1 hd with rfl | hd
        · exact Or.inr hc
        · exact Or.inl hd
      · exact Or.inr hd
  · intro frame hmem d hd
    rcases hframe frame hmem with hmem | rfl
    · exact h.edge_pending frame hmem d hd
    · exact h.edge_pending ⟨p, c :: pending⟩ (by simp [hf]) d (List.mem_cons_of_mem _ hd)

/-- A node with no edge still to look at may be left. -/
theorem Sound.leave (h : w.Sound graph roots) {v : Nat} {frames : List Frame}
    (hf : w.frames = ⟨v, []⟩ :: frames) :
    Sound graph roots { w with frames := frames, left := v :: w.left } := by
  have hpath : w.path = v :: frames.map Frame.node := by simp [path, hf]
  have hchain := h.chain
  rw [hpath, List.pairwise_cons] at hchain
  refine
    { mem_visited := ?_
      nodup := ?_
      reached := h.reached
      chain := hchain.2
      looked := fun frame hmem => h.looked frame (by rw [hf]; exact List.mem_cons_of_mem _ hmem)
      edge_pending := fun frame hmem =>
        h.edge_pending frame (by rw [hf]; exact List.mem_cons_of_mem _ hmem)
      ordered := ?_ }
  · intro x
    rw [h.mem_visited x, hpath, List.mem_cons, List.mem_cons, or_assoc, or_left_comm]
    rfl
  · have hnodup := h.nodup
    rw [hpath] at hnodup
    exact (List.perm_middle (a := v)).nodup_iff.2 hnodup
  · intro a ha b he
    rcases List.mem_cons.1 ha with rfl | ha
    · -- what follows the node was visited: either it is on the path, and reaches the node, or it
      -- was left before
      have hb : b ∈ w.visited :=
        (h.looked ⟨a, []⟩ (by simp [hf]) b he).resolve_left (by simp)
      rcases (h.mem_visited b).1 hb with hb | hb
      · rw [hpath, List.mem_cons] at hb
        rcases hb with rfl | hb
        · exact Or.inr .refl
        · exact Or.inr (hchain.1 b hb)
      · exact Or.inl (List.cons_sublist_cons.2 (List.singleton_sublist.2 hb))
    · exact (h.ordered a ha b he).imp_left fun hs => hs.trans (List.sublist_cons_self ..)

/-- One step keeps the invariant. -/
theorem Sound.step (h : w.Sound graph roots) : (w.step graph).Sound graph roots := by
  rw [Walk.step]
  split
  · exact h
  · next v frames hf => exact h.leave hf
  · next p c pending frames hf =>
    have hpp : p ∈ w.path := by simp [path, hf]
    have hedge : graph.Edge p c := h.edge_pending ⟨p, c :: pending⟩ (by simp [hf]) c (by simp)
    simp only
    split
    · next hc => exact h.advance [] hf (List.contains_iff_mem.1 hc)
    · next hc =>
      have hc : c ∉ w.visited := fun hm => hc (List.contains_iff_mem.2 hm)
      have hpath : ∀ q ∈ w.path, graph.Reaches q c := by
        intro q hq
        have hchain := h.chain
        rw [path, hf, List.map_cons, List.pairwise_cons] at hchain
        rw [path, hf, List.map_cons, List.mem_cons] at hq
        rcases hq with rfl | hq
        · exact .single hedge
        · exact .tail (hchain.1 q hq) hedge
      obtain ⟨r, hr, hreach⟩ := h.reached p ((h.mem_visited p).2 (Or.inl hpp))
      have hvisit := h.visit hc ⟨r, hr, .tail hreach hedge⟩ hpath
      exact hvisit.advance [⟨c, graph.next c⟩] (p := p) (c := c) (by simp [Walk.visit, hf])
        (List.mem_cons_self ..)

theorem Sound.steps (h : w.Sound graph roots) (n : Nat) :
    (w.steps graph n).Sound graph roots := by
  induction n generalizing w with
  | zero => exact h
  | succ n ih => exact ih h.step

/-! ## The end of a walk -/

/-- What the walk has still to do. -/
def remaining (graph : Graph) (w : Walk) : Nat :=
  frameWork w.frames + graph.workOf fun v => !w.visited.contains v

theorem remaining_visit {c : Nat} (hc : c ∉ w.visited) (hlt : c < graph.length) :
    (w.visit graph c).remaining graph ≤ w.remaining graph := by
  have hdrop : graph.cost c + graph.workOf (fun v => !(c :: w.visited).contains v) ≤
      graph.workOf fun v => !w.visited.contains v := by
    refine graph.workOf_remove hlt (by simpa using hc) fun v hv => ?_
    simpa [and_comm] using hv
  simp only [remaining, Walk.visit, frameWork_cons]
  rw [Graph.cost] at hdrop
  omega

/-- Between walks there is no more to do than the work of the graph. -/
theorem remaining_le_work (hf : w.frames = []) : w.remaining graph ≤ graph.work := by
  rw [remaining, hf, frameWork_nil, Nat.zero_add, Graph.work_eq]
  exact graph.workOf_mono fun _ _ => rfl

/-- Every step brings the walk closer to its end. -/
theorem remaining_step (hg : graph.isClosed) (h : w.Sound graph roots) (hf : w.frames ≠ []) :
    (w.step graph).remaining graph < w.remaining graph := by
  rw [step]
  split
  · next hn => exact absurd hn hf
  · next v frames hn =>
    simp only [remaining, hn, frameWork_cons, List.length_nil]
    omega
  · next p c pending frames hn =>
    have hedge : graph.Edge p c := h.edge_pending ⟨p, c :: pending⟩ (by simp [hn]) c (by simp)
    have hless :
        remaining graph { w with frames := ⟨p, pending⟩ :: frames } < w.remaining graph := by
      simp only [remaining, hn, frameWork_cons, List.length_cons]
      omega
    simp only
    split
    · exact hless
    · next hc =>
      refine Nat.lt_of_le_of_lt (remaining_visit ?_ (hedge.lt_length_of_isClosed hg)) hless
      exact fun hm => hc (List.contains_iff_mem.2 hm)

theorem visited_step (w : Walk) : w.visited ⊆ (w.step graph).visited := by
  rw [step]
  split
  · exact List.Subset.refl _
  · exact List.Subset.refl _
  · simp only
    split
    · exact List.Subset.refl _
    · exact List.subset_cons_self ..

theorem steps_of_frames_nil (hf : w.frames = []) (n : Nat) : w.steps graph n = w := by
  have hstep : w.step graph = w := by rw [step, hf]
  induction n with
  | zero => rfl
  | succ n ih => rw [steps, hstep, ih]

/-- A walk that has no more to do than the given number of steps has ended after them. -/
theorem frames_steps (hg : graph.isClosed) (h : w.Sound graph roots) {n : Nat}
    (hn : w.remaining graph ≤ n) :
    (w.steps graph n).frames = [] ∧ w.visited ⊆ (w.steps graph n).visited := by
  induction n generalizing w with
  | zero =>
    rw [remaining] at hn
    have hnil : w.frames = [] := eq_nil_of_frameWork (by omega)
    exact ⟨hnil, List.Subset.refl _⟩
  | succ n ih =>
    by_cases hf : w.frames = []
    · rw [steps_of_frames_nil hf]
      exact ⟨hf, List.Subset.refl _⟩
    · have hlt := remaining_step hg h hf
      obtain ⟨hnil, hsub⟩ := ih h.step (by omega)
      exact ⟨hnil, List.Subset.trans (visited_step w) hsub⟩

/-- A walk from one root ends, with that root visited. -/
theorem Sound.startAt (hg : graph.isClosed) (h : w.Sound graph roots) (hf : w.frames = [])
    {root : Nat} (hr : root ∈ roots) (hlt : root < graph.length) :
    (w.startAt graph root).Sound graph roots ∧ (w.startAt graph root).frames = [] ∧
      root ∈ (w.startAt graph root).visited ∧ w.visited ⊆ (w.startAt graph root).visited := by
  rw [Walk.startAt]
  split
  · next hv => exact ⟨h, hf, List.contains_iff_mem.1 hv, List.Subset.refl _⟩
  · next hv =>
    have hv : root ∉ w.visited := fun hm => hv (List.contains_iff_mem.2 hm)
    have hvisit := h.visit hv ⟨root, hr, .refl⟩ (by simp [path, hf])
    have hwork : (w.visit graph root).remaining graph ≤ graph.work :=
      Nat.le_trans (remaining_visit hv hlt) (remaining_le_work hf)
    obtain ⟨hnil, hsub⟩ := frames_steps hg hvisit hwork
    exact ⟨hvisit.steps _, hnil, hsub (List.mem_cons_self ..),
      List.Subset.trans (List.subset_cons_self ..) hsub⟩

/-- Walks from several roots end, with these roots visited. -/
theorem Sound.foldl_startAt (hg : graph.isClosed) (h : w.Sound graph roots) (hf : w.frames = [])
    {starts : List Nat} (hs : ∀ r ∈ starts, r ∈ roots ∧ r < graph.length) :
    (starts.foldl (Walk.startAt graph) w).Sound graph roots ∧
      (starts.foldl (Walk.startAt graph) w).frames = [] ∧
      (∀ r ∈ starts, r ∈ (starts.foldl (Walk.startAt graph) w).visited) ∧
      w.visited ⊆ (starts.foldl (Walk.startAt graph) w).visited := by
  induction starts generalizing w with
  | nil => exact ⟨h, hf, by simp, List.Subset.refl _⟩
  | cons root starts ih =>
    obtain ⟨hr, hlt⟩ := hs root (List.mem_cons_self ..)
    obtain ⟨hsound, hnil, hroot, hsub⟩ := h.startAt hg hf hr hlt
    obtain ⟨hsound', hnil', hroots, hsub'⟩ :=
      ih hsound hnil fun r hr => hs r (List.mem_cons_of_mem _ hr)
    refine ⟨hsound', hnil', fun r hr => ?_, List.Subset.trans hsub hsub'⟩
    rcases List.mem_cons.1 hr with rfl | hr
    · exact hsub' hroot
    · exact hroots r hr

theorem sound_empty (graph : Graph) (roots : List Nat) : ({} : Walk).Sound graph roots := by
  constructor <;> simp [path]

end Walk

/-! ## The whole walk -/

variable {graph : Graph} {roots : List Nat}

/-- The walk from all roots keeps the invariant, ends and visits every root. -/
theorem Graph.walk_sound (hg : graph.isClosed) (hr : ∀ r ∈ roots, r < graph.length) :
    (roots.foldl (Walk.startAt graph) {}).Sound graph roots ∧
      (roots.foldl (Walk.startAt graph) {}).frames = [] ∧
      ∀ r ∈ roots, r ∈ (roots.foldl (Walk.startAt graph) {}).visited := by
  obtain ⟨hsound, hnil, hroots, _⟩ :=
    (Walk.sound_empty graph roots).foldl_startAt hg rfl fun r h => ⟨h, hr r h⟩
  exact ⟨hsound, hnil, hroots⟩

/-- A walk leaves no node twice. -/
theorem Graph.nodup_postorder (hg : graph.isClosed) (hr : ∀ r ∈ roots, r < graph.length) :
    (graph.postorder roots).Nodup := by
  have hnodup := (graph.walk_sound hg hr).1.nodup
  exact List.nodup_reverse.2 (List.nodup_append.1 hnodup).2.1

/-- A walk leaves its roots. -/
theorem Graph.mem_postorder_of_mem (hg : graph.isClosed) (hr : ∀ r ∈ roots, r < graph.length)
    {r : Nat} (h : r ∈ roots) : r ∈ graph.postorder roots := by
  obtain ⟨hsound, hnil, hroots⟩ := graph.walk_sound hg hr
  have hleft := (hsound.mem_visited r).1 (hroots r h)
  rw [Walk.path, hnil] at hleft
  exact List.mem_reverse.2 (hleft.resolve_left (by simp))

/-- A walk leaves only what its roots reach. -/
theorem Graph.reaches_of_mem_postorder (hg : graph.isClosed)
    (hr : ∀ r ∈ roots, r < graph.length) {v : Nat} (h : v ∈ graph.postorder roots) :
    ∃ r ∈ roots, graph.Reaches r v := by
  obtain ⟨hsound, _, _⟩ := graph.walk_sound hg hr
  exact hsound.reached v ((hsound.mem_visited v).2 (Or.inr (List.mem_reverse.1 h)))

/-- Of two nodes joined by an edge a walk leaves the end before the start, unless the end reaches
the start. -/
theorem Graph.postorder_of_edge (hg : graph.isClosed) (hr : ∀ r ∈ roots, r < graph.length)
    {a b : Nat} (ha : a ∈ graph.postorder roots) (he : graph.Edge a b) :
    [b, a].Sublist (graph.postorder roots) ∨ graph.Reaches b a := by
  obtain ⟨hsound, _, _⟩ := graph.walk_sound hg hr
  exact (hsound.ordered a (List.mem_reverse.1 ha) b he).imp_left List.Sublist.reverse

end SchemaCodegen.Dependency
