import SchemaCodegen.Proofs.Dependency.SearchMoves

/-!
# Proofs: closing a component

When the node at the top of the path has no edge still to look at and its low number is its index,
the open nodes from it on are exactly the nodes that it reaches and that reach it.
-/

namespace SchemaCodegen.Dependency

namespace Search

variable {graph : Graph} {s : Search}

/-- `x` is an open node that is not earlier than `v`. -/
def Late (s : Search) (v x : Nat) : Prop :=
  x ∈ s.stack ∧ s.index v ≤ s.index x

section Root

variable {v : Nat} {frames : List Frame}

/-- An edge from a late node leads to a late or a closed one. -/
theorem Late.of_edge (h : s.Sound graph) (hf : s.frames = ⟨v, []⟩ :: frames)
    (hroot : s.low v = s.index v) {x w : Nat} (hx : s.Late v x) (he : graph.Edge x w) :
    s.Late v w ∨ ∃ c, s.mark w = .closed c := by
  have hex : Examined graph s x w := h.examined_of_top hf hx.2 he
  have hseen := h.examined_seen x hx.1 w hex
  cases hw : s.mark w with
  | unseen => exact absurd hw hseen
  | closed c => exact Or.inr ⟨c, rfl⟩
  | entered i l =>
    have hws : w ∈ s.stack := (h.mem_stack w).2 ⟨i, l, hw⟩
    have hlow := h.examined_low v x w (h.owns_top hf hx.2) hx.1 hws hex
    exact Or.inl ⟨hws, hroot ▸ hlow⟩

theorem Late.of_reaches (h : s.Sound graph) (hf : s.frames = ⟨v, []⟩ :: frames)
    (hroot : s.low v = s.index v) {x w : Nat} (hx : s.Late v x) (hr : graph.Reaches x w) :
    s.Late v w ∨ ∃ c, s.mark w = .closed c := by
  induction hr with
  | refl => exact Or.inl hx
  | tail _ he ih =>
    rcases ih with hy | ⟨c, hy⟩
    · exact Late.of_edge h hf hroot hy he
    · exact Or.inr (h.closed_next _ c _ hy he)

theorem Late.reached (h : s.Sound graph) (hf : s.frames = ⟨v, []⟩ :: frames) {x : Nat}
    (hx : s.Late v x) : graph.Reaches v x :=
  h.reaches v (by simp [path, hf]) x hx.1 hx.2

theorem Late.reaches (h : s.Sound graph) (hf : s.frames = ⟨v, []⟩ :: frames)
    (hroot : s.low v = s.index v) {x : Nat} (hx : s.Late v x) : graph.Reaches x v := by
  -- by induction on the index: a late node other than the root has found a way to an earlier one
  induction hi : s.index x using Nat.strong_induction_on generalizing x with
  | _ i ih =>
    by_cases hxv : x = v
    · rw [hxv]
      exact .refl
    · have hxp : x ∉ s.path := by
        intro hxp
        rw [path, hf, List.map_cons, List.mem_cons] at hxp
        exact absurd (h.index_lt_top hf (hxp.resolve_left hxv)) (Nat.not_lt.2 hx.2)
      obtain ⟨w, hw, hwl, hr⟩ := h.low_reaches x hx.1
      have hlt := h.low_lt x hx.1 hxp
      rcases Late.of_reaches h hf hroot hx hr with hlw | ⟨c, hc⟩
      · exact hr.trans (ih (s.index w) (by omega) hlw rfl)
      · exact absurd hc (h.not_closed hw c)

theorem Late.of_connected (h : s.Sound graph) (hf : s.frames = ⟨v, []⟩ :: frames)
    (hroot : s.low v = s.index v) {x y : Nat} (hx : s.Late v x) (hc : graph.Connected x y) :
    s.Late v y := by
  refine (Late.of_reaches h hf hroot hx hc.1).resolve_right fun ⟨c, hy⟩ => ?_
  obtain ⟨d, hd⟩ := h.closed_reaches hy hc.2
  exact h.not_closed hx.1 d hd

/-- The stack falls into the late nodes, down to the root, and the earlier ones. -/
theorem Sound.stack_split (h : s.Sound graph) (hv : v ∈ s.stack) :
    ∃ top rest, s.stack = top ++ v :: rest ∧ v ∉ top ∧ (∀ x, x ∈ top ++ [v] ↔ s.Late v x) ∧
      ∀ x ∈ rest, s.index x < s.index v := by
  obtain ⟨top, rest, hs⟩ := List.append_of_mem hv
  have hsorted := h.sorted
  rw [hs, List.pairwise_append] at hsorted
  obtain ⟨_, hvrest, htop⟩ := hsorted
  have hrest := (List.pairwise_cons.1 hvrest).1
  refine ⟨top, rest, hs, fun hvt => ?_, fun x => ⟨fun hx => ?_, fun hx => ?_⟩, hrest⟩
  · exact absurd (htop v hvt v (List.mem_cons_self ..)) (Nat.lt_irrefl _)
  · rcases List.mem_append.1 hx with hx | hx
    · exact ⟨by simp [hs, hx], Nat.le_of_lt (htop x hx v (List.mem_cons_self ..))⟩
    · rw [List.mem_singleton.1 hx]
      exact ⟨hv, le_rfl⟩
  · obtain ⟨hxs, hle⟩ := hx
    rw [hs, List.mem_append, List.mem_cons] at hxs
    rcases hxs with hxs | rfl | hxs
    · exact List.mem_append_left _ hxs
    · simp
    · exact absurd (hrest x hxs) (Nat.not_lt.2 hle)

end Root

/-- What follows an item in a sublist comes from what follows it in the list. -/
theorem sublist_of_cons_sublist_append {v : Nat} {top rest items : List Nat} (hv : v ∉ top)
    (h : (v :: items).Sublist (top ++ v :: rest)) : items.Sublist rest := by
  obtain ⟨front, back, e, hfront, hback⟩ := List.sublist_append_iff.1 h
  cases front with
  | nil =>
    rw [List.nil_append] at e
    rw [← e] at hback
    exact List.cons_sublist_cons.1 hback
  | cons u front =>
    rw [List.cons_append, List.cons.injEq] at e
    exact absurd (hfront.subset (by simp [e.1])) hv

theorem mark_closeAll (h : s.Sound graph) {nodes : List Nat} (hn : ∀ x ∈ nodes, x ∈ s.stack)
    (c x : Nat) :
    (closeAll c s.marks nodes)[x]?.getD (.closed 0) =
      if x ∈ nodes then .closed c else s.mark x := by
  have hlt : ∀ y ∈ nodes, y < s.marks.length :=
    fun y hy => lt_length_of_mark (h.not_closed (hn y hy))
  rw [getElem?_closeAll hlt]
  split
  · rfl
  · rfl

/-- The state after the component of the top of the path was closed. -/
theorem close_eq {v : Nat} {top rest : List Nat} (hs : s.stack = top ++ v :: rest) (hv : v ∉ top)
    (frames : List Frame) :
    close { s with frames := frames } v =
      { s with
        marks := closeAll s.components s.marks (top ++ [v])
        stack := rest
        frames := frames
        components := s.components + 1 } := by
  simp only [close, hs, cutBelow_append hv]

/-- When the late nodes are closed under a new number, the closed nodes keep their invariant. -/
theorem Sound.closedSound_of_late (h : s.Sound graph) {v : Nat} {frames : List Frame}
    (hf : s.frames = ⟨v, []⟩ :: frames) (hroot : s.low v = s.index v) {t : Search}
    {nodes : List Nat} (hlate : ∀ x, x ∈ nodes ↔ s.Late v x)
    (hmark : ∀ x, t.mark x = if x ∈ nodes then .closed s.components else s.mark x)
    (hcount : t.components = s.components + 1) : t.ClosedSound graph := by
  have hvs : v ∈ s.stack := h.mem_stack_of_path (by simp [path, hf])
  -- a closed node either is late or was closed before
  have hclosed : ∀ x c, t.mark x = .closed c →
      (s.Late v x ∧ c = s.components) ∨ (¬ s.Late v x ∧ s.mark x = .closed c) := by
    intro x c hx
    rw [hmark] at hx
    split at hx
    · next hxt => exact Or.inl ⟨(hlate x).1 hxt, (Mark.closed.inj hx).symm⟩
    · next hxt => exact Or.inr ⟨fun hl => hxt ((hlate x).2 hl), hx⟩
  have hnew : ∀ x, s.Late v x → t.mark x = .closed s.components := by
    intro x hx
    rw [hmark, if_pos ((hlate x).2 hx)]
  have hold : ∀ x c, s.mark x = .closed c → t.mark x = .closed c := by
    intro x c hx
    rw [hmark, if_neg fun hxt => h.not_closed ((hlate x).1 hxt).1 c hx]
    exact hx
  refine { closed_next := ?_, closed_lt := ?_, closed_used := ?_, closed_iff := ?_ }
  · -- closed_next
    intro x c w hx he
    have hw : s.Late v w ∨ ∃ d, s.mark w = .closed d := by
      rcases hclosed x c hx with ⟨hl, _⟩ | ⟨_, hc⟩
      · exact Late.of_edge h hf hroot hl he
      · exact Or.inr (h.closed_next x c w hc he)
    rcases hw with hw | ⟨d, hw⟩
    · exact ⟨_, hnew w hw⟩
    · exact ⟨d, hold w d hw⟩
  · -- closed_lt
    intro x c hlt hx
    rw [hcount]
    rcases hclosed x c hx with ⟨_, rfl⟩ | ⟨_, hc⟩
    · omega
    · have := h.closed_lt x c hlt hc
      omega
  · -- closed_used
    intro c hc
    rw [hcount] at hc
    rcases Nat.lt_succ_iff_lt_or_eq.1 hc with hc | rfl
    · obtain ⟨x, hlt, hx⟩ := h.closed_used c hc
      exact ⟨x, hlt, hold x c hx⟩
    · exact ⟨v, h.lt_length hvs, hnew v ⟨hvs, le_rfl⟩⟩
  · -- closed_iff
    intro x y c d hxl hyl hx hy
    rcases hclosed x c hx with ⟨hlx, ex⟩ | ⟨hnx, hx⟩ <;>
      rcases hclosed y d hy with ⟨hly, ey⟩ | ⟨hny, hy⟩
    · exact ⟨fun _ => ⟨(hlx.reaches h hf hroot).trans (hly.reached h hf),
        (hly.reaches h hf hroot).trans (hlx.reached h hf)⟩, fun _ => ex.trans ey.symm⟩
    · have hlt := h.closed_lt y d hyl hy
      exact ⟨fun e => absurd e (by omega), fun hc => absurd (hlx.of_connected h hf hroot hc) hny⟩
    · have hlt := h.closed_lt x c hxl hx
      exact ⟨fun e => absurd e (by omega),
        fun hc => absurd (hly.of_connected h hf hroot hc.symm) hnx⟩
    · exact h.closed_iff x y c d hxl hyl hx hy

/-- The component of the top of the path may be closed, once the top has no edge still to look at,
if its low number is its index. -/
theorem Sound.close (h : s.Sound graph) {v : Nat} {frames : List Frame}
    (hf : s.frames = ⟨v, []⟩ :: frames) (hroot : s.low v = s.index v) :
    (Search.close { s with frames := frames } v).Sound graph := by
  have hpath : s.path = v :: frames.map Frame.node := by simp [path, hf]
  have hvs : v ∈ s.stack := h.mem_stack_of_path (by simp [hpath])
  obtain ⟨top, rest, hs, hvt, hlate, hrest⟩ := h.stack_split hvs
  rw [close_eq hs hvt]
  set t : Search :=
    { s with
      marks := closeAll s.components s.marks (top ++ [v])
      stack := rest
      frames := frames
      components := s.components + 1 }
  have hmark : ∀ x, t.mark x = if x ∈ top ++ [v] then .closed s.components else s.mark x :=
    mark_closeAll h (fun x hx => ((hlate x).1 hx).1) s.components
  have hsub : ∀ x ∈ rest, x ∈ s.stack := by
    intro x hx
    simp [hs, hx]
  have hearly : ∀ x ∈ rest, x ∉ top ++ [v] :=
    fun x hx hxt => absurd (hrest x hx) (Nat.not_lt.2 ((hlate x).1 hxt).2)
  have hmarkr : ∀ x ∈ rest, t.mark x = s.mark x := fun x hx => by rw [hmark, if_neg (hearly x hx)]
  have hidx : ∀ x ∈ rest, t.index x = s.index x := fun x hx => by rw [index, hmarkr x hx, index]
  have hlow : ∀ x ∈ rest, t.low x = s.low x := fun x hx => by rw [low, hmarkr x hx, low]
  have hmem : ∀ x ∈ s.stack, x ∉ top ++ [v] → x ∈ rest := by
    intro x hx hxt
    rw [hs, List.mem_append, List.mem_cons] at hx
    rcases hx with hx | rfl | hx
    · exact absurd (List.mem_append_left _ hx) hxt
    · exact absurd (List.mem_append_right _ (List.mem_singleton_self _)) hxt
    · exact hx
  have hsorted := h.sorted
  rw [hs, List.pairwise_append] at hsorted
  have hpsub : (frames.map Frame.node).Sublist rest := by
    have hall := h.path_sublist
    rw [hpath, hs] at hall
    exact sublist_of_cons_sublist_append hvt hall
  have hpr : ∀ p ∈ t.path, p ∈ rest := fun p hp => hpsub.subset hp
  have hpp : ∀ p ∈ t.path, p ∈ s.path := by
    intro p hp
    rw [hpath]
    exact List.mem_cons_of_mem _ hp
  have hexamined : ∀ x w, Examined graph t x w → Examined graph s x w :=
    fun _ _ => Examined.of_pop hf
  have howns : ∀ p x, x ∈ rest → t.Owns p x → s.Owns p x := by
    intro p x hx ho
    have hle := ho.le
    rw [hidx p (hpr p ho.mem), hidx x hx] at hle
    refine ⟨hpp p ho.mem, hle, fun q hq hqx => ?_⟩
    rw [hpath, List.mem_cons] at hq
    rcases hq with rfl | hq
    · exact absurd (hrest x hx) (Nat.not_lt.2 hqx)
    · have hlatest := ho.latest q hq
      rw [hidx q (hpr q hq), hidx x hx, hidx p (hpr p ho.mem)] at hlatest
      exact hlatest hqx
  refine
    { toClosedSound := h.closedSound_of_late hf hroot hlate hmark rfl
      length_marks := ?_
      mem_stack := ?_
      sorted := ?_
      index_lt := ?_
      path_sublist := hpsub
      edge_pending := ?_
      reaches := ?_
      owned := ?_
      low_le := ?_
      low_reaches := ?_
      low_lt := ?_
      examined_seen := ?_
      examined_low := ?_ }
  · -- length_marks
    exact (length_closeAll ..).trans h.length_marks
  · -- mem_stack
    intro x
    show x ∈ rest ↔ _
    rw [hmark]
    split
    · next hxt => simpa using fun hx => hearly x hx hxt
    · next hxt =>
      exact ⟨fun hx => (h.mem_stack x).1 (hsub x hx),
        fun hx => hmem x ((h.mem_stack x).2 hx) hxt⟩
  · -- sorted
    refine (List.pairwise_cons.1 hsorted.2.1).2.imp_of_mem fun {x y} hx hy hlt => ?_
    rwa [hidx x hx, hidx y hy]
  · -- index_lt
    intro x hx
    rw [hidx x hx]
    exact h.index_lt x (hsub x hx)
  · -- edge_pending
    exact fun frame hframe => h.edge_pending frame (by rw [hf]; exact List.mem_cons_of_mem _ hframe)
  · -- reaches
    intro p hp x hx hle
    rw [hidx p (hpr p hp), hidx x hx] at hle
    exact h.reaches p (hpp p hp) x (hsub x hx) hle
  · -- owned
    intro x hx
    obtain ⟨p, hp, hle⟩ := h.owned x (hsub x hx)
    rw [hpath, List.mem_cons] at hp
    rcases hp with rfl | hp
    · exact absurd (hrest x hx) (Nat.not_lt.2 hle)
    · exact ⟨p, hp, by rwa [hidx p (hpr p hp), hidx x hx]⟩
  · -- low_le
    intro x hx
    rw [hlow x hx, hidx x hx]
    exact h.low_le x (hsub x hx)
  · -- low_reaches
    intro x hx
    obtain ⟨w, hw, hwl, hr⟩ := h.low_reaches x (hsub x hx)
    have hwr : w ∈ rest := by
      refine hmem w hw fun hwt => ?_
      have hle := ((hlate w).1 hwt).2
      have hlx := h.low_le x (hsub x hx)
      have hxv := hrest x hx
      omega
    exact ⟨w, hwr, by rw [hlow x hx, hidx w hwr, hwl], hr⟩
  · -- low_lt
    intro x hx hxp
    rw [hlow x hx, hidx x hx]
    refine h.low_lt x (hsub x hx) fun hxs => hxp ?_
    rw [hpath, List.mem_cons] at hxs
    refine hxs.resolve_left fun e => hearly x hx ?_
    simp [e]
  · -- examined_seen
    intro x hx w hex
    have hw := h.examined_seen x (hsub x hx) w (hexamined x w hex)
    rw [hmark]
    split
    · simp
    · exact hw
  · -- examined_low
    intro p x w ho hx hw hex
    rw [hlow p (hpr p ho.mem), hidx w hw]
    exact h.examined_low p x w (howns p x hx ho) (hsub x hx) (hsub w hw) (hexamined x w hex)

end Search

end SchemaCodegen.Dependency
