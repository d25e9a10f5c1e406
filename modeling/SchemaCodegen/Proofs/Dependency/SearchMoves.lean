import SchemaCodegen.Proofs.Dependency.SearchState

/-!
# Proofs: the moves of the search keep its invariant

A search moves in five ways: it enters a node, lowers a low number, puts an edge behind it, leaves a
node whose low number is less than its index, and closes a component.
-/

namespace SchemaCodegen.Dependency

namespace Search

variable {graph : Graph} {s : Search}

/-! ## Entering a node -/

theorem index_enter_of_ne {c x : Nat} (hc : s.mark c = .unseen) (hx : x ≠ c) :
    (s.enter graph c).index x = s.index x := by
  rw [index, mark_enter hc, if_neg hx, index]

theorem low_enter_of_ne {c x : Nat} (hc : s.mark c = .unseen) (hx : x ≠ c) :
    (s.enter graph c).low x = s.low x := by
  rw [low, mark_enter hc, if_neg hx, low]

theorem index_enter_self {c : Nat} (hc : s.mark c = .unseen) :
    (s.enter graph c).index c = s.counter := by
  rw [index, mark_enter hc, if_pos rfl, Mark.index]

theorem low_enter_self {c : Nat} (hc : s.mark c = .unseen) :
    (s.enter graph c).low c = s.counter := by
  rw [low, mark_enter hc, if_pos rfl, Mark.low]

/-- The edges of a node that is entered are not examined, those of others as before. -/
theorem examined_of_enter {c x w : Nat} (h : Examined graph (s.enter graph c) x w) :
    x ≠ c ∧ Examined graph s x w := by
  refine ⟨fun e => ?_, h.1, fun frame hf => h.2 frame (List.mem_cons_of_mem _ hf)⟩
  subst e
  exact h.2 ⟨x, graph.next x⟩ (List.mem_cons_self ..) rfl h.1

/-- A node that was not seen may be entered if the path leads to it. -/
theorem Sound.enter (h : s.Sound graph) {c : Nat} (hc : s.mark c = .unseen)
    (hp : ∀ p ∈ s.path, graph.Reaches p c) : (s.enter graph c).Sound graph := by
  have hne : ∀ x ∈ s.stack, x ≠ c := by
    rintro x hx rfl
    obtain ⟨i, l, hm⟩ := (h.mem_stack x).1 hx
    simp [hm] at hc
  have hidx : ∀ x ∈ s.stack, (s.enter graph c).index x = s.index x :=
    fun x hx => index_enter_of_ne hc (hne x hx)
  have hlow : ∀ x ∈ s.stack, (s.enter graph c).low x = s.low x :=
    fun x hx => low_enter_of_ne hc (hne x hx)
  have hclosed : ∀ x d, (s.enter graph c).mark x = .closed d ↔ s.mark x = .closed d := by
    intro x d
    rw [mark_enter hc]
    split
    · next e => simp [e, hc]
    · rfl
  have hpath : (s.enter graph c).path = c :: s.path := rfl
  refine
    { toClosedSound := h.of_mark_iff hclosed rfl
      length_marks := ?_
      mem_stack := ?_
      sorted := ?_
      index_lt := ?_
      path_sublist := h.path_sublist.cons_cons c
      edge_pending := ?_
      reaches := ?_
      owned := ?_
      low_le := ?_
      low_reaches := ?_
      low_lt := ?_
      examined_seen := ?_
      examined_low := ?_ }
  · -- length_marks
    exact (List.length_set ..).trans h.length_marks
  · -- mem_stack
    intro v
    rw [mark_enter hc]
    show v ∈ c :: s.stack ↔ _
    by_cases e : v = c
    · simp [e]
    · simp [e, h.mem_stack v]
  · -- sorted
    refine List.pairwise_cons.2 ⟨fun w hw => ?_, ?_⟩
    · rw [hidx w hw, index_enter_self hc]
      exact h.index_lt w hw
    · refine h.sorted.imp_of_mem fun {v w} hv hw hlt => ?_
      rwa [hidx v hv, hidx w hw]
  · -- index_lt
    intro v hv
    show _ < s.counter + 1
    rcases List.mem_cons.1 hv with rfl | hv
    · rw [index_enter_self hc]
      omega
    · rw [hidx v hv]
      have := h.index_lt v hv
      omega
  · -- edge_pending
    intro frame hf w hw
    rcases List.mem_cons.1 hf with rfl | hf
    · exact hw
    · exact h.edge_pending frame hf w hw
  · -- reaches
    intro p hpp x hx hle
    rcases List.mem_cons.1 hpp with e | hpp <;> rcases List.mem_cons.1 hx with e' | hx
    · rw [e, e']
      exact .refl
    · rw [e, index_enter_self hc, hidx x hx] at hle
      exact absurd (h.index_lt x hx) (Nat.not_lt.2 hle)
    · rw [e']
      exact hp p hpp
    · rw [hidx p (h.mem_stack_of_path hpp), hidx x hx] at hle
      exact h.reaches p hpp x hx hle
  · -- owned
    intro x hx
    rcases List.mem_cons.1 hx with rfl | hx
    · exact ⟨x, List.mem_cons_self .., le_rfl⟩
    · obtain ⟨p, hpp, hle⟩ := h.owned x hx
      refine ⟨p, List.mem_cons_of_mem _ hpp, ?_⟩
      rwa [hidx p (h.mem_stack_of_path hpp), hidx x hx]
  · -- low_le
    intro x hx
    rcases List.mem_cons.1 hx with rfl | hx
    · rw [low_enter_self hc, index_enter_self hc]
    · rw [hlow x hx, hidx x hx]
      exact h.low_le x hx
  · -- low_reaches
    intro x hx
    rcases List.mem_cons.1 hx with rfl | hx
    · exact ⟨x, List.mem_cons_self .., by rw [low_enter_self hc, index_enter_self hc], .refl⟩
    · obtain ⟨w, hw, e, hr⟩ := h.low_reaches x hx
      exact ⟨w, List.mem_cons_of_mem _ hw, by rw [hlow x hx, hidx w hw, e], hr⟩
  · -- low_lt
    intro x hx hxp
    rw [hpath, List.mem_cons, not_or] at hxp
    have hxs : x ∈ s.stack := (List.mem_cons.1 hx).resolve_left hxp.1
    rw [hlow x hxs, hidx x hxs]
    exact h.low_lt x hxs hxp.2
  · -- examined_seen
    intro x hx w hex
    obtain ⟨hxc, hex⟩ := examined_of_enter hex
    have hw := h.examined_seen x ((List.mem_cons.1 hx).resolve_left hxc) w hex
    rw [mark_enter hc]
    split
    · simp
    · exact hw
  · -- examined_low
    intro p x w ho hx hw hex
    obtain ⟨hxc, hex⟩ := examined_of_enter hex
    have hxs : x ∈ s.stack := (List.mem_cons.1 hx).resolve_left hxc
    have hws : w ∈ s.stack := by
      refine (List.mem_cons.1 hw).resolve_left fun e => ?_
      exact h.examined_seen x hxs w hex (e ▸ hc)
    have hle := ho.le
    rw [hidx x hxs] at hle
    have hpp : p ∈ s.path := by
      refine (List.mem_cons.1 ho.mem).resolve_left fun e => ?_
      rw [e, index_enter_self hc] at hle
      exact absurd (h.index_lt x hxs) (Nat.not_lt.2 hle)
    have hps := h.mem_stack_of_path hpp
    rw [hidx p hps] at hle
    rw [hlow p hps, hidx w hws]
    refine h.examined_low p x w ⟨hpp, hle, fun q hq hqx => ?_⟩ hxs hws hex
    have hqs := h.mem_stack_of_path hq
    have hlatest := ho.latest q (List.mem_cons_of_mem _ hq)
    rw [hidx q hqs, hidx x hxs, hidx p hps] at hlatest
    exact hlatest hqx

/-! ## Lowering a low number -/

theorem index_lowerTo (bound v x : Nat) : (s.lowerTo bound v).index x = s.index x := by
  cases hv : s.mark v with
  | entered i l =>
    rw [index, mark_lowerTo hv]
    split
    · next e => rw [index, e, hv, Mark.index, Mark.index]
    · rfl
  | unseen => simp [lowerTo, hv]
  | closed c => simp [lowerTo, hv]

theorem low_lowerTo_of_ne {v x : Nat} (hx : x ≠ v) (bound : Nat) :
    (s.lowerTo bound v).low x = s.low x := by
  cases hv : s.mark v with
  | entered i l => rw [low, mark_lowerTo hv, if_neg hx, low]
  | unseen => simp [lowerTo, hv]
  | closed c => simp [lowerTo, hv]

theorem low_lowerTo_self {v i l : Nat} (hv : s.mark v = .entered i l) (bound : Nat) :
    (s.lowerTo bound v).low v = min (s.low v) bound := by
  rw [low, mark_lowerTo hv, if_pos rfl, low, hv, Mark.low, Mark.low]

/-- Lowering a low number changes no other part of the state. -/
theorem lowerTo_eq (bound v : Nat) :
    s.lowerTo bound v = { s with marks := (s.lowerTo bound v).marks } := by
  rw [lowerTo]
  split <;> rfl

theorem lowerTo_eq_self {bound v : Nat} (h : s.low v ≤ bound) : s.lowerTo bound v = s := by
  cases hv : s.mark v with
  | entered i l =>
    have hl : min l bound = l := by
      rw [low, hv, Mark.low] at h
      exact Nat.min_eq_left h
    have hlt : v < s.marks.length := lt_length_of_mark (by simp [hv])
    have hget : s.marks[v] = .entered i l := by
      rw [mark, List.getElem?_eq_getElem hlt] at hv
      exact hv
    simp only [lowerTo, hv, hl]
    rw [← hget, List.set_getElem_self]
  | unseen => simp [lowerTo, hv]
  | closed c => simp [lowerTo, hv]

theorem low_lowerTo_le (bound v x : Nat) : (s.lowerTo bound v).low x ≤ s.low x := by
  by_cases hx : x = v
  · subst hx
    cases hv : s.mark x with
    | entered i l =>
      rw [low_lowerTo_self hv]
      exact Nat.min_le_left ..
    | unseen => simp [lowerTo, hv]
    | closed c => simp [lowerTo, hv]
  · rw [low_lowerTo_of_ne hx]

/-- The low number of an open node may be lowered to the index of an open node that it reaches. -/
theorem Sound.lowerTo (h : s.Sound graph) {v w : Nat} (hv : v ∈ s.stack) (hw : w ∈ s.stack)
    (hr : graph.Reaches v w) : (s.lowerTo (s.index w) v).Sound graph := by
  obtain ⟨i, l, hm⟩ := (h.mem_stack v).1 hv
  have hmark := mark_lowerTo hm (s.index w)
  have hidx : ∀ x, (s.lowerTo (s.index w) v).index x = s.index x := index_lowerTo (s.index w) v
  have hle := low_lowerTo_le (s := s) (s.index w) v
  have hclosed : ∀ x d, (s.lowerTo (s.index w) v).mark x = .closed d ↔ s.mark x = .closed d := by
    intro x d
    rw [hmark]
    split
    · next e => simp [e, hm]
    · rfl
  have heq := lowerTo_eq (s := s) (s.index w) v
  have hstack : (s.lowerTo (s.index w) v).stack = s.stack := by rw [heq]
  have hframes : (s.lowerTo (s.index w) v).frames = s.frames := by rw [heq]
  have hpath : (s.lowerTo (s.index w) v).path = s.path := by rw [path, hframes, path]
  have howns : ∀ p x, (s.lowerTo (s.index w) v).Owns p x → s.Owns p x := by
    rintro p x ⟨hp, hpx, hlatest⟩
    simp only [hpath, hidx] at hp hpx hlatest
    exact ⟨hp, hpx, hlatest⟩
  have hexamined : ∀ x y, Examined graph (s.lowerTo (s.index w) v) x y → Examined graph s x y := by
    rintro x y ⟨he, hpending⟩
    exact ⟨he, by rwa [hframes] at hpending⟩
  refine
    { toClosedSound := h.of_mark_iff hclosed (by rw [heq])
      length_marks := ?_
      mem_stack := ?_
      sorted := ?_
      index_lt := ?_
      path_sublist := ?_
      edge_pending := ?_
      reaches := ?_
      owned := ?_
      low_le := ?_
      low_reaches := ?_
      low_lt := ?_
      examined_seen := ?_
      examined_low := ?_ }
  · -- length_marks
    rw [Search.lowerTo, hm]
    exact (List.length_set ..).trans h.length_marks
  · -- mem_stack
    intro x
    rw [hstack, hmark, h.mem_stack x]
    split
    · next e => simp [e, hm]
    · rfl
  · -- sorted
    rw [hstack]
    simpa only [hidx] using h.sorted
  · -- index_lt
    intro x hx
    rw [hidx, heq]
    exact h.index_lt x (by rwa [hstack] at hx)
  · -- path_sublist
    rw [hpath, hstack]
    exact h.path_sublist
  · -- edge_pending
    rw [hframes]
    exact h.edge_pending
  · -- reaches
    rw [hpath, hstack]
    simpa only [hidx] using h.reaches
  · -- owned
    rw [hpath, hstack]
    simpa only [hidx] using h.owned
  · -- low_le
    intro x hx
    rw [hidx]
    exact Nat.le_trans (hle x) (h.low_le x (by rwa [hstack] at hx))
  · -- low_reaches
    intro x hx
    rw [hstack] at hx ⊢
    simp only [hidx]
    by_cases hxv : x = v
    · subst hxv
      rw [low_lowerTo_self hm]
      rcases Nat.le_total (s.low x) (s.index w) with hl | hl
      · rw [Nat.min_eq_left hl]
        exact h.low_reaches x hx
      · rw [Nat.min_eq_right hl]
        exact ⟨w, hw, rfl, hr⟩
    · rw [low_lowerTo_of_ne hxv]
      exact h.low_reaches x hx
  · -- low_lt
    intro x hx hxp
    rw [hidx]
    rw [hpath] at hxp
    exact Nat.lt_of_le_of_lt (hle x) (h.low_lt x (by rwa [hstack] at hx) hxp)
  · -- examined_seen
    intro x hx y hex
    have hy := h.examined_seen x (by rwa [hstack] at hx) y (hexamined x y hex)
    rw [hmark]
    split
    · simp
    · exact hy
  · -- examined_low
    intro p x y ho hx hy hex
    rw [hstack] at hx hy
    rw [hidx]
    exact Nat.le_trans (hle p) (h.examined_low p x y (howns p x ho) hx hy (hexamined x y hex))

/-! ## Changing the frames only -/

/-- The invariant depends on the frames in these ways only. -/
theorem Sound.withFrames (h : s.Sound graph) {frames : List Frame}
    (hsub : (frames.map Frame.node).Sublist s.path)
    (hedge : ∀ frame ∈ frames, ∀ w ∈ frame.pending, graph.Edge frame.node w)
    (howned : ∀ p ∈ s.path, ∃ q ∈ frames.map Frame.node, s.index q ≤ s.index p)
    (hleft : ∀ x ∈ s.path, x ∉ frames.map Frame.node → s.low x < s.index x)
    (hseen : ∀ x ∈ s.stack, ∀ w, Examined graph { s with frames := frames } x w →
      s.mark w ≠ .unseen)
    (hlow : ∀ p x w, Owns { s with frames := frames } p x → x ∈ s.stack → w ∈ s.stack →
      Examined graph { s with frames := frames } x w → s.low p ≤ s.index w) :
    Sound graph { s with frames := frames } := by
  refine { h with
    path_sublist := hsub.trans h.path_sublist
    edge_pending := hedge
    reaches := fun p hp => h.reaches p (hsub.subset hp)
    owned := ?_
    low_lt := ?_
    examined_seen := hseen
    examined_low := hlow }
  · intro x hx
    obtain ⟨p, hp, hpx⟩ := h.owned x hx
    obtain ⟨q, hq, hqp⟩ := howned p hp
    exact ⟨q, hq, Nat.le_trans hqp hpx⟩
  · intro x hx hxf
    by_cases hxp : x ∈ s.path
    · exact hleft x hxp hxf
    · exact h.low_lt x hx hxp

/-- An edge may be put behind once its end was entered and, if that end is open, the low number of
its start takes account of it. -/
theorem Sound.advance (h : s.Sound graph) (above : List Frame) {frames : List Frame} {p c : Nat}
    {pending : List Nat} (hf : s.frames = above ++ ⟨p, c :: pending⟩ :: frames)
    (hc : s.mark c ≠ .unseen) (hl : c ∈ s.stack → s.low p ≤ s.index c) :
    Sound graph { s with frames := above ++ ⟨p, pending⟩ :: frames } := by
  have hpath : path { s with frames := above ++ ⟨p, pending⟩ :: frames } = s.path := by
    simp [path, hf]
  have hpp : p ∈ s.path := by simp [path, hf]
  have hexamined : ∀ x w,
      Examined graph { s with frames := above ++ ⟨p, pending⟩ :: frames } x w →
      Examined graph s x w ∨ (x = p ∧ w = c) := by
    rintro x w ⟨he, hpending⟩
    by_cases hxw : x = p ∧ w = c
    · exact Or.inr hxw
    · refine Or.inl ⟨he, fun frame hframe hnode => ?_⟩
      simp only [List.mem_append, List.mem_cons] at hpending
      rw [hf, List.mem_append, List.mem_cons] at hframe
      rcases hframe with hframe | rfl | hframe
      · exact hpending frame (Or.inl hframe) hnode
      · have hw := hpending ⟨p, pending⟩ (Or.inr (Or.inl rfl)) hnode
        exact fun hmem => (List.mem_cons.1 hmem).elim (fun e => hxw ⟨hnode.symm, e⟩) hw
      · exact hpending frame (Or.inr (Or.inr hframe)) hnode
  refine h.withFrames (hpath ▸ List.Sublist.refl _) ?_ ?_ ?_ ?_ ?_
  · intro frame hframe w hw
    rw [List.mem_append, List.mem_cons] at hframe
    rcases hframe with hframe | rfl | hframe
    · exact h.edge_pending frame (by simp [hf, hframe]) w hw
    · exact h.edge_pending ⟨p, c :: pending⟩ (by simp [hf]) w (List.mem_cons_of_mem _ hw)
    · exact h.edge_pending frame (by simp [hf, hframe]) w hw
  · intro q hq
    rw [← hpath] at hq
    exact ⟨q, hq, le_rfl⟩
  · intro x hx hxf
    rw [← hpath] at hx
    exact absurd hx hxf
  · intro x hx w hex
    rcases hexamined x w hex with hex | ⟨_, rfl⟩
    · exact h.examined_seen x hx w hex
    · exact hc
  · intro q x w ho hx hw hex
    have ho' : s.Owns q x := ⟨hpath ▸ ho.mem, ho.le, fun r hr => ho.latest r (hpath.symm ▸ hr)⟩
    rcases hexamined x w hex with hex | ⟨rfl, rfl⟩
    · exact h.examined_low q x w ho' hx hw hex
    · rw [h.eq_of_owns hpp ho']
      exact hl hw

/-- Leaving the top of the path, which has no edge still to look at, puts no edge behind it. -/
theorem Examined.of_pop {t : Search} {v x w : Nat} (hf : s.frames = ⟨v, []⟩ :: t.frames)
    (h : Examined graph t x w) : Examined graph s x w := by
  refine ⟨h.1, fun frame hframe hnode => ?_⟩
  rw [hf, List.mem_cons] at hframe
  rcases hframe with rfl | hframe
  · simp
  · exact h.2 frame hframe hnode

/-- The top of the path may be left, once it has no edge still to look at, if it stays open and the
node below it has taken over its low number. -/
theorem Sound.retire (h : s.Sound graph) {v : Nat} {below : Frame} {frames : List Frame}
    (hf : s.frames = ⟨v, []⟩ :: below :: frames) (hlt : s.low v < s.index v)
    (hle : s.low below.node ≤ s.low v) :
    Sound graph { s with frames := below :: frames } := by
  have hpath : s.path = v :: (below :: frames).map Frame.node := by simp [path, hf]
  have hbv : s.index below.node < s.index v := h.index_lt_top hf (by simp)
  have hexamined : ∀ x w, Examined graph { s with frames := below :: frames } x w →
      Examined graph s x w := fun _ _ => Examined.of_pop hf
  refine h.withFrames ?_ ?_ ?_ ?_ ?_ ?_
  · rw [hpath]
    exact List.sublist_cons_self ..
  · exact fun frame hframe => h.edge_pending frame (by rw [hf]; exact List.mem_cons_of_mem _ hframe)
  · intro p hp
    rw [hpath, List.mem_cons] at hp
    rcases hp with rfl | hp
    · exact ⟨below.node, by simp, Nat.le_of_lt hbv⟩
    · exact ⟨p, hp, le_rfl⟩
  · intro x hx hxf
    rw [hpath, List.mem_cons] at hx
    rw [hx.resolve_right hxf]
    exact hlt
  · exact fun x hx w hex => h.examined_seen x hx w (hexamined x w hex)
  · intro q x w ho hx hw hex
    have hex := hexamined x w hex
    by_cases hvx : s.index v ≤ s.index x
    · -- the nodes of the node that is left go over to the one below it
      have hqb : q = below.node := by
        have hqf : q ∈ (below :: frames).map Frame.node := ho.mem
        rw [List.map_cons, List.mem_cons] at hqf
        refine hqf.resolve_right fun hq => ?_
        have hlatest := ho.latest below.node (List.mem_cons_self ..)
          (Nat.le_trans (Nat.le_of_lt hbv) hvx)
        have hsorted := h.path_sorted
        rw [hpath, List.map_cons] at hsorted
        have hlt := (List.pairwise_cons.1 (List.pairwise_cons.1 hsorted).2).1 q hq
        exact absurd hlatest (Nat.not_le.2 hlt)
      rw [hqb]
      exact Nat.le_trans hle (h.examined_low v x w (h.owns_top hf hvx) hx hw hex)
    · refine h.examined_low q x w ⟨?_, ho.le, fun r hr hrx => ?_⟩ hx hw hex
      · rw [hpath]
        exact List.mem_cons_of_mem _ ho.mem
      · rw [hpath, List.mem_cons] at hr
        rcases hr with rfl | hr
        · exact absurd hrx hvx
        · exact ho.latest r hr hrx

end Search

end SchemaCodegen.Dependency
