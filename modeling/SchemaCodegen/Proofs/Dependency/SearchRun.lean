import SchemaCodegen.Proofs.Dependency.GraphWork
import SchemaCodegen.Proofs.Dependency.SearchClose

/-!
# Proofs: the search finds the components

Every step keeps the invariant of the search and brings it closer to its end, so every search ends
within the work of the graph. Main statement: two nodes have one component number exactly if each
reaches the other, and the numbers are those below the number of components.
-/

namespace SchemaCodegen.Dependency

namespace Search

variable {graph : Graph} {s : Search}

/-! ## One step -/

/-- Lowering a low number and changing the frames do not depend on each other. -/
theorem lowerTo_withFrames (bound v : Nat) (frames : List Frame) :
    lowerTo bound { s with frames := frames } v =
      { s.lowerTo bound v with frames := frames } := by
  have hmark : mark { s with frames := frames } v = s.mark v := rfl
  rw [lowerTo, lowerTo, hmark]
  split <;> rfl

theorem Sound.look (h : s.Sound graph) {p c : Nat} {pending : List Nat} {frames : List Frame}
    (hf : s.frames = ⟨p, c :: pending⟩ :: frames) :
    (Search.look graph { s with frames := ⟨p, pending⟩ :: frames } p c).Sound graph := by
  have hpp : p ∈ s.path := by simp [path, hf]
  have hps := h.mem_stack_of_path hpp
  have hedge : graph.Edge p c := h.edge_pending ⟨p, c :: pending⟩ (by simp [hf]) c (by simp)
  have hmark : mark { s with frames := ⟨p, pending⟩ :: frames } c = s.mark c := rfl
  rw [Search.look, hmark]
  cases hc : s.mark c with
  | unseen =>
    have hpath : ∀ q ∈ s.path, graph.Reaches q c := by
      intro q hq
      refine .tail (h.reaches q hq p hps ?_) hedge
      rw [path, hf, List.map_cons, List.mem_cons] at hq
      rcases hq with rfl | hq
      · exact le_rfl
      · exact Nat.le_of_lt (h.index_lt_top hf hq)
    have hne : p ≠ c := by
      rintro rfl
      obtain ⟨i, l, hm⟩ := (h.mem_stack p).1 hps
      simp [hm] at hc
    refine (h.enter hc hpath).advance [⟨c, graph.next c⟩] (p := p) (c := c) ?_ ?_ ?_
    · simp [Search.enter, hf]
    · simp [mark_enter hc]
    · intro _
      rw [low_enter_of_ne hc hne, index_enter_self hc]
      exact Nat.le_of_lt (Nat.lt_of_le_of_lt (h.low_le p hps) (h.index_lt p hps))
  | entered i l =>
    have hi : i = s.index c := by rw [index, hc, Mark.index]
    have hcs : c ∈ s.stack := (h.mem_stack c).2 ⟨i, l, hc⟩
    have hl := h.lowerTo hps hcs (.single hedge)
    obtain ⟨j, k, hm⟩ := (h.mem_stack p).1 hps
    show (Search.lowerTo i { s with frames := ⟨p, pending⟩ :: frames } p).Sound graph
    rw [lowerTo_withFrames, hi]
    refine hl.advance [] (p := p) (c := c) ?_ ?_ ?_
    · rw [lowerTo_eq]
      exact hf
    · rw [mark_lowerTo hm]
      split
      · simp
      · simp [hc]
    · intro _
      rw [low_lowerTo_self hm, index_lowerTo]
      exact Nat.min_le_right ..
  | closed d =>
    refine h.advance [] (p := p) (c := c) hf (by simp [hc]) fun hcs => ?_
    exact absurd hc (h.not_closed hcs d)

theorem Sound.leave (h : s.Sound graph) {v : Nat} {frames : List Frame}
    (hf : s.frames = ⟨v, []⟩ :: frames) :
    (Search.leave { s with frames := frames } v).Sound graph := by
  have hvp : v ∈ s.path := by simp [path, hf]
  have hvs := h.mem_stack_of_path hvp
  obtain ⟨i, l, hm⟩ := (h.mem_stack v).1 hvs
  have hi : s.index v = i := by rw [index, hm, Mark.index]
  have hl : s.low v = l := by rw [low, hm, Mark.low]
  have hmark : mark { s with frames := frames } v = .entered i l := hm
  simp only [Search.leave, hmark]
  have hle := h.low_le v hvs
  by_cases hroot : l = i
  · rw [if_pos hroot]
    have hdown : handDown l { s with frames := frames } = { s with frames := frames } := by
      cases frames with
      | nil => rfl
      | cons below frames =>
        have hlt := h.index_lt_top hf (q := below.node) (by simp)
        have hb := h.low_le below.node (h.mem_stack_of_path (by simp [path, hf]))
        refine lowerTo_eq_self ?_
        show s.low below.node ≤ l
        simp only at hlt
        omega
    rw [hdown]
    exact h.close hf (by rw [hi, hl, hroot])
  · rw [if_neg hroot]
    have hlt : s.low v < s.index v := by omega
    obtain ⟨w, hw, hwl, hr⟩ := h.low_reaches v hvs
    cases frames with
    | nil =>
      -- the earlier node would belong to no node of the path
      obtain ⟨p, hp, hpw⟩ := h.owned w hw
      have hpv : p = v := by simpa [path, hf] using hp
      rw [hpv, hwl] at hpw
      omega
    | cons below frames =>
      have hbp : below.node ∈ s.path := by simp [path, hf]
      have hbs := h.mem_stack_of_path hbp
      have hbv : s.index below.node < s.index v := h.index_lt_top hf (by simp)
      have hreach : graph.Reaches below.node w :=
        (h.reaches below.node hbp v hvs (Nat.le_of_lt hbv)).trans hr
      have hne : v ≠ below.node := by
        rintro rfl
        omega
      obtain ⟨j, k, hmb⟩ := (h.mem_stack below.node).1 hbs
      have hs := h.lowerTo hbs hw hreach
      show (Search.lowerTo l { s with frames := below :: frames } below.node).Sound graph
      rw [lowerTo_withFrames, show l = s.index w by omega]
      refine hs.retire (v := v) ?_ ?_ ?_
      · rw [lowerTo_eq]
        exact hf
      · rwa [low_lowerTo_of_ne hne, index_lowerTo]
      · rw [low_lowerTo_self hmb, low_lowerTo_of_ne hne]
        omega

/-- One step keeps the invariant. -/
theorem Sound.step (h : s.Sound graph) : (s.step graph).Sound graph := by
  rw [Search.step]
  split
  · exact h
  · next hf => exact h.leave hf
  · next hf => exact h.look hf

theorem Sound.steps (h : s.Sound graph) (n : Nat) : (s.steps graph n).Sound graph := by
  induction n generalizing s with
  | zero => exact h
  | succ n ih => exact ih h.step

/-! ## The end of a search -/

/-! ### Nodes that were not seen -/

theorem unseen_lowerTo_iff (bound v x : Nat) :
    (s.lowerTo bound v).mark x = .unseen ↔ s.mark x = .unseen := by
  cases hv : s.mark v with
  | entered i l =>
    rw [mark_lowerTo hv]
    split
    · next e => simp [e, hv]
    · rfl
  | unseen => rw [lowerTo, hv]
  | closed c => rw [lowerTo, hv]

theorem unseen_closeAll_iff {c x : Nat} {marks : List Mark} {nodes : List Nat} :
    (closeAll c marks nodes)[x]?.getD (.closed 0) = .unseen ↔
      x ∉ nodes ∧ marks[x]?.getD (.closed 0) = .unseen := by
  induction nodes generalizing marks with
  | nil => simp [closeAll]
  | cons v nodes ih =>
    have hset : (marks.set v (.closed c))[x]?.getD (.closed 0) = .unseen ↔
        x ≠ v ∧ marks[x]?.getD (.closed 0) = .unseen := by
      rw [List.getElem?_set]
      by_cases hx : v = x
      · rw [if_pos hx]
        split <;> simp [hx]
      · simp [hx, Ne.symm hx]
    have hfirst : closeAll c marks (v :: nodes) = closeAll c (marks.set v (.closed c)) nodes := rfl
    rw [hfirst, ih, hset, List.mem_cons, not_or, ← and_assoc, and_comm (a := x ∉ nodes)]

/-- Handing a low number down changes no other part of the state than the marks. -/
theorem handDown_eq (l : Nat) (s : Search) :
    s.handDown l = { s with marks := (s.handDown l).marks } := by
  rw [handDown]
  split
  · rfl
  · exact lowerTo_eq ..

theorem unseen_handDown_iff (l x : Nat) :
    (s.handDown l).mark x = .unseen ↔ s.mark x = .unseen := by
  rw [handDown]
  split
  · rfl
  · exact unseen_lowerTo_iff ..

/-- Leaving a node makes no difference to the nodes that were not seen. -/
theorem unseen_leave_iff (hopen : ∀ x ∈ s.stack, s.mark x ≠ .unseen) (v x : Nat) :
    (s.leave v).mark x = .unseen ↔ s.mark x = .unseen := by
  rw [leave]
  split
  · next i l _ =>
    have hdown := unseen_handDown_iff (s := s) l x
    simp only
    split
    · have hstack : (s.handDown l).stack = s.stack := by rw [handDown_eq]
      have hcut : x ∈ (cutBelow v (s.handDown l).stack).1 → x ∈ s.stack := by
        intro hx
        rw [← append_cutBelow v s.stack, ← hstack]
        exact List.mem_append_left _ hx
      refine unseen_closeAll_iff.trans ?_
      rw [← hdown]
      exact and_iff_right_of_imp fun hu hx => hopen x (hcut hx) (hdown.1 hu)
    · exact hdown
  · rfl

theorem frames_leave (v : Nat) : (s.leave v).frames = s.frames := by
  rw [leave]
  split
  · simp only
    split
    · rw [close, handDown_eq]
    · rw [handDown_eq]
  · rfl

theorem Sound.ne_unseen (h : s.Sound graph) {x : Nat} (hx : x ∈ s.stack) : s.mark x ≠ .unseen := by
  obtain ⟨i, l, hm⟩ := (h.mem_stack x).1 hx
  simp [hm]

/-! ### Work -/

/-- What the search has still to do. -/
def remaining (graph : Graph) (s : Search) : Nat :=
  frameWork s.frames + graph.workOf fun v => s.mark v == .unseen

theorem workOf_unseen_mono {t : Search} (h : ∀ x, t.mark x = .unseen → s.mark x = .unseen) :
    graph.workOf (fun v => t.mark v == .unseen) ≤ graph.workOf fun v => s.mark v == .unseen :=
  graph.workOf_mono fun v hv => beq_iff_eq.2 (h v (beq_iff_eq.1 hv))

/-- The edges of a node that is entered were counted with the unseen nodes before. -/
theorem remaining_enter {c : Nat} (hc : s.mark c = .unseen) (hlt : c < graph.length) :
    (s.enter graph c).remaining graph ≤ s.remaining graph := by
  have hdrop : graph.cost c + graph.workOf (fun v => (s.enter graph c).mark v == .unseen) ≤
      graph.workOf fun v => s.mark v == .unseen := by
    refine graph.workOf_remove hlt (by simp [hc]) fun v hv => ?_
    rw [beq_iff_eq, mark_enter hc] at hv
    split at hv
    · simp at hv
    · next hvc => exact ⟨beq_iff_eq.2 hv, hvc⟩
  have hcost : graph.cost c = (graph.next c).length + 1 := rfl
  have hframes : frameWork (s.enter graph c).frames =
      (graph.next c).length + 1 + frameWork s.frames := rfl
  rw [remaining, remaining, hframes]
  omega

/-- Between searches there is no more to do than the work of the graph. -/
theorem remaining_le_work (hf : s.frames = []) : s.remaining graph ≤ graph.work := by
  rw [remaining, hf, frameWork_nil, Nat.zero_add, Graph.work_eq]
  exact graph.workOf_mono fun _ _ => rfl

/-- Every step brings the search closer to its end, and leaves no node unseen that was seen. -/
theorem remaining_step (hs : s.Sound graph) (hf : s.frames ≠ []) :
    (s.step graph).remaining graph < s.remaining graph ∧
      ∀ x, (s.step graph).mark x = .unseen → s.mark x = .unseen := by
  rw [step]
  split
  · next h => exact absurd h hf
  · next v frames h =>
    have hseen : ∀ x, (leave { s with frames := frames } v).mark x = .unseen →
        s.mark x = .unseen :=
      fun x => (unseen_leave_iff (s := { s with frames := frames })
        (fun _ hx => hs.ne_unseen hx) v x).1
    refine ⟨?_, hseen⟩
    have hwork : graph.workOf (fun x => (leave { s with frames := frames } v).mark x == .unseen) ≤
        graph.workOf fun x => s.mark x == .unseen := workOf_unseen_mono hseen
    simp only [remaining, frames_leave, h, frameWork_cons]
    omega
  · next p c pending frames h =>
    set t : Search := { s with frames := ⟨p, pending⟩ :: frames }
    have hmark : ∀ x, t.mark x = s.mark x := fun _ => rfl
    have hless : t.remaining graph < s.remaining graph := by
      have hrest : frameWork t.frames < frameWork s.frames := by
        simp only [t, h, frameWork_cons, List.length_cons]
        omega
      exact Nat.add_lt_add_right hrest _
    rw [look]
    cases hc : t.mark c with
    | unseen =>
      have hcl : c < graph.length := by
        rw [← hs.length_marks]
        exact lt_length_of_mark (by simp [← hmark, hc])
      refine ⟨Nat.lt_of_le_of_lt (remaining_enter hc hcl) hless, fun x hx => ?_⟩
      rw [mark_enter hc] at hx
      split at hx
      · simp at hx
      · exact hx
    | entered i l =>
      have hseen : ∀ x, (t.lowerTo i p).mark x = .unseen → t.mark x = .unseen :=
        fun x => (unseen_lowerTo_iff i p x).1
      refine ⟨Nat.lt_of_le_of_lt ?_ hless, hseen⟩
      have hframes : (t.lowerTo i p).frames = t.frames := by rw [lowerTo_eq]
      rw [remaining, remaining, hframes]
      exact Nat.add_le_add_left (workOf_unseen_mono hseen) _
    | closed d => exact ⟨hless, fun x hx => hx⟩

theorem steps_of_frames_nil (hf : s.frames = []) (n : Nat) : s.steps graph n = s := by
  have hstep : s.step graph = s := by rw [step, hf]
  induction n with
  | zero => rfl
  | succ n ih => rw [steps, hstep, ih]

/-- A search that has no more to do than the given number of steps has ended after them. -/
theorem frames_steps (hs : s.Sound graph) {n : Nat} (hn : s.remaining graph ≤ n) :
    (s.steps graph n).frames = [] ∧
      ∀ x, (s.steps graph n).mark x = .unseen → s.mark x = .unseen := by
  induction n generalizing s with
  | zero =>
    rw [remaining] at hn
    have hnil : s.frames = [] := eq_nil_of_frameWork (by omega)
    exact ⟨hnil, fun x hx => hx⟩
  | succ n ih =>
    by_cases hf : s.frames = []
    · rw [steps_of_frames_nil hf]
      exact ⟨hf, fun x hx => hx⟩
    · obtain ⟨hlt, hseen⟩ := remaining_step hs hf
      obtain ⟨hnil, hx⟩ := ih hs.step (by omega)
      exact ⟨hnil, fun x hu => hseen x (hx x hu)⟩

/-- What holds between searches: the invariant, and no node is on the path. -/
structure Idle (graph : Graph) (s : Search) : Prop extends s.Sound graph where
  /-- No node is on the path. -/
  frames_nil : s.frames = []

/-- Between searches no node is open. -/
theorem Idle.not_entered (h : s.Idle graph) (v i l : Nat) : s.mark v ≠ .entered i l := by
  intro hm
  obtain ⟨p, hp, _⟩ := h.owned v ((h.mem_stack v).2 ⟨i, l, hm⟩)
  simp [path, h.frames_nil] at hp

theorem idle_initial (graph : Graph) : (initial graph).Idle graph := by
  have hmark : ∀ v, (initial graph).mark v = if v < graph.length then .unseen else .closed 0 := by
    intro v
    rw [initial, mark, List.getElem?_replicate]
    split <;> rfl
  have hclosed : ∀ v c, (initial graph).mark v = .closed c → graph.length ≤ v := by
    intro v c hv
    rw [hmark] at hv
    split at hv
    · simp at hv
    · omega
  have hclosedSound : (initial graph).ClosedSound graph := by
    refine
      { closed_next := ?_, closed_lt := ?_, closed_used := by simp [initial], closed_iff := ?_ }
    · intro v c w hv he
      exact absurd he.lt_length (Nat.not_lt.2 (hclosed v c hv))
    · intro v c hlt hv
      exact absurd hlt (Nat.not_lt.2 (hclosed v c hv))
    · intro v w c d hlt _ hv _
      exact absurd hlt (Nat.not_lt.2 (hclosed v c hv))
  refine
    { toClosedSound := hclosedSound
      length_marks := List.length_replicate ..
      mem_stack := ?_
      sorted := .nil
      index_lt := by simp [initial]
      path_sublist := .slnil
      edge_pending := by simp [initial]
      reaches := by simp [path, initial]
      owned := by simp [initial]
      low_le := by simp [initial]
      low_reaches := by simp [initial]
      low_lt := by simp [initial]
      examined_seen := by simp [initial]
      examined_low := by simp [initial]
      frames_nil := rfl }
  intro v
  rw [hmark]
  split <;> simp [initial]

/-- A search from one node ends, with that node closed and no other opened again. -/
theorem Idle.startAt (h : s.Idle graph) (root : Nat) :
    (s.startAt graph root).Idle graph ∧ (s.startAt graph root).mark root ≠ .unseen ∧
      ∀ x, (s.startAt graph root).mark x = .unseen → s.mark x = .unseen := by
  rw [Search.startAt]
  split
  · next hr =>
    have hpath : s.path = [] := by simp [path, h.frames_nil]
    have henter := h.toSound.enter hr (by simp [hpath])
    have hroot : root < graph.length := by
      rw [← h.length_marks]
      exact lt_length_of_mark (by simp [hr])
    have hseen : ∀ x, (s.enter graph root).mark x = .unseen → s.mark x = .unseen ∧ x ≠ root := by
      intro x hx
      rw [mark_enter hr] at hx
      split at hx
      · simp at hx
      · next hxr => exact ⟨hx, hxr⟩
    have hwork : (s.enter graph root).remaining graph ≤ graph.work :=
      Nat.le_trans (remaining_enter hr hroot) (remaining_le_work h.frames_nil)
    obtain ⟨hnil, hx⟩ := frames_steps henter hwork
    refine ⟨⟨henter.steps _, hnil⟩, fun hu => ?_, fun x hu => (hseen x (hx x hu)).1⟩
    exact (hseen root (hx root hu)).2 rfl
  · next hr => exact ⟨h, hr, fun x hx => hx⟩

/-- Searches from several nodes end, with these nodes closed. -/
theorem Idle.foldl_startAt (h : s.Idle graph) (roots : List Nat) :
    (roots.foldl (Search.startAt graph) s).Idle graph ∧
      (∀ r ∈ roots, (roots.foldl (Search.startAt graph) s).mark r ≠ .unseen) ∧
      ∀ x, (roots.foldl (Search.startAt graph) s).mark x = .unseen → s.mark x = .unseen := by
  induction roots generalizing s with
  | nil => exact ⟨h, by simp, fun x hx => hx⟩
  | cons root roots ih =>
    obtain ⟨hidle, hroot, hseen⟩ := h.startAt root
    obtain ⟨hidle', hroots, hseen'⟩ := ih hidle
    refine ⟨hidle', fun r hr => ?_, fun x hx => hseen x (hseen' x hx)⟩
    rcases List.mem_cons.1 hr with rfl | hr
    · exact fun hu => hroot (hseen' r hu)
    · exact hroots r hr

end Search

/-! ## The whole search -/

variable (graph : Graph)

/-- The search of a whole graph keeps the invariant and ends. -/
theorem Graph.idle_search : graph.search.Idle graph :=
  ((Search.idle_initial graph).foldl_startAt (List.range graph.length)).1

/-- The search of a whole graph closes every node. -/
theorem Graph.closed_of_search {v : Nat} (hv : v < graph.length) :
    ∃ c, graph.search.mark v = .closed c := by
  have hroots := ((Search.idle_initial graph).foldl_startAt (List.range graph.length)).2.1
  have hseen : graph.search.mark v ≠ .unseen := hroots v (List.mem_range.2 hv)
  cases hm : graph.search.mark v with
  | unseen => exact absurd hm hseen
  | entered i l => exact absurd hm (graph.idle_search.not_entered v i l)
  | closed c => exact ⟨c, rfl⟩

theorem Graph.length_componentNumbers : graph.componentNumbers.length = graph.length := by
  rw [componentNumbers, List.length_map, graph.idle_search.length_marks]

/-- The component number of a node is the one that closed it. -/
theorem Graph.getElem?_componentNumbers {v c : Nat} (hv : v < graph.length)
    (hc : graph.search.mark v = .closed c) : graph.componentNumbers[v]? = some c := by
  have hlt : v < graph.search.marks.length := by rwa [graph.idle_search.length_marks]
  rw [Search.mark, List.getElem?_eq_getElem hlt, Option.getD_some] at hc
  rw [componentNumbers, List.getElem?_map, List.getElem?_eq_getElem hlt, hc]
  rfl

/-- Two nodes have one component number exactly if each reaches the other. -/
theorem Graph.componentNumbers_eq_iff {v w : Nat} (hv : v < graph.length) (hw : w < graph.length) :
    graph.componentNumbers[v]? = graph.componentNumbers[w]? ↔ graph.Connected v w := by
  obtain ⟨c, hc⟩ := graph.closed_of_search hv
  obtain ⟨d, hd⟩ := graph.closed_of_search hw
  rw [graph.getElem?_componentNumbers hv hc, graph.getElem?_componentNumbers hw hd,
    Option.some.injEq]
  exact graph.idle_search.closed_iff v w c d hv hw hc hd

/-- Numbers of the nodes that tell their components: two nodes have one number exactly if each
reaches the other. -/
structure Graph.IsNumbering (graph : Graph) (numbers : List Nat) : Prop where
  /-- Every node has a number. -/
  length_eq : numbers.length = graph.length
  /-- Equal numbers stand for one component. -/
  eq_iff : ∀ v w, v < graph.length → w < graph.length →
    (numbers[v]? = numbers[w]? ↔ graph.Connected v w)

theorem Graph.isNumbering_componentNumbers : graph.IsNumbering graph.componentNumbers where
  length_eq := graph.length_componentNumbers
  eq_iff _ _ hv hw := graph.componentNumbers_eq_iff hv hw

/-- Numbers of the components, counted from zero: all numbers below the count are used, and no
others. -/
structure Graph.CountsComponents (graph : Graph) (count : Nat) (numbers : List Nat) : Prop
    extends graph.IsNumbering numbers where
  /-- The number of a node is below the count. -/
  lt_count : ∀ v < graph.length, ∃ c < count, numbers[v]? = some c
  /-- A number below the count is the number of some node. -/
  used : ∀ c < count, ∃ v < graph.length, numbers[v]? = some c

/-- The search numbers the components, as many as it has completed. -/
theorem Graph.countsComponents_search :
    graph.CountsComponents graph.search.components graph.componentNumbers := by
  refine { toIsNumbering := graph.isNumbering_componentNumbers, lt_count := ?_, used := ?_ }
  · -- lt_count
    intro v hv
    obtain ⟨c, hc⟩ := graph.closed_of_search hv
    have hlt := graph.idle_search.closed_lt v c hv hc
    exact ⟨c, hlt, graph.getElem?_componentNumbers hv hc⟩
  · -- used
    intro c hc
    obtain ⟨v, hv, hmark⟩ := graph.idle_search.closed_used c hc
    exact ⟨v, hv, graph.getElem?_componentNumbers hv hmark⟩

end SchemaCodegen.Dependency
