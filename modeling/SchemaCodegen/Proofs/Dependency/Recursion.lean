import SchemaCodegen.Proofs.Dependency.Postorder

/-!
# Proofs: the walk and the recursive definition

The order in which a walk leaves the nodes has a recursive definition: items are visited in turn; an
item that was written down before is passed over, any other one is written down after its followers
were visited. In a graph without circles the walk, which keeps the nodes that it has not left on a
stack, writes down exactly what the recursive definition does. Frame by frame, what a walk has still
to look at is what the recursion has still to visit.
-/

namespace SchemaCodegen.Dependency

/-! ## The recursive definition -/

/-- Visiting the given items in turn, where `next` tells the followers of an item, goes from what
was written down before to what is written down afterwards. -/
inductive Visits {α : Type} (next : α → List α) : List α → List α → List α → Prop where
  /-- There is nothing to visit. -/
  | nil (done : List α) : Visits next done [] done
  /-- An item that was visited before is passed over. -/
  | pass {done rest out : List α} {item : α} (hitem : item ∈ done)
      (hrest : Visits next done rest out) : Visits next done (item :: rest) out
  /-- Any other item is written down after its followers. -/
  | visit {done rest mid out : List α} {item : α} (hitem : item ∉ done)
      (hnext : Visits next done (next item) mid) (hrest : Visits next (mid ++ [item]) rest out) :
      Visits next done (item :: rest) out

namespace Visits

variable {α β : Type} {next : α → List α} {done items rest mid out : List α}

/-- What was written down stays so. -/
theorem isPrefix (h : Visits next done items out) : done <+: out := by
  induction h with
  | nil done => exact List.prefix_refl done
  | pass _ _ ih => exact ih
  | visit _ _ _ ihnext ihrest =>
    exact ihnext.trans ((List.prefix_append _ _).trans ihrest)

/-- Every visited item is written down. -/
theorem mem_out (h : Visits next done items out) : ∀ item ∈ items, item ∈ out := by
  induction h with
  | nil done => simp
  | pass hitem hrest ih =>
    rintro item (_ | ⟨_, hmem⟩)
    · exact hrest.isPrefix.subset hitem
    · exact ih item hmem
  | visit _ _ hrest _ ih =>
    rintro item (_ | ⟨_, hmem⟩)
    · exact hrest.isPrefix.subset (by simp)
    · exact ih item hmem

/-- The recursive definition gives one result. -/
theorem unique {other : List α} (h : Visits next done items out)
    (hother : Visits next done items other) : out = other := by
  induction h generalizing other with
  | nil done =>
    cases hother
    rfl
  | pass hitem _ ih =>
    cases hother with
    | pass _ hrest => exact ih hrest
    | visit hnot _ _ => exact absurd hitem hnot
  | visit hnot _ _ ihnext ihrest =>
    cases hother with
    | pass hitem _ => exact absurd hitem hnot
    | visit _ hnext hrest =>
      obtain rfl := ihnext hnext
      exact ihrest hrest

/-- Items are visited one part after another. -/
theorem append_iff :
    Visits next done (items ++ rest) out ↔
      ∃ mid, Visits next done items mid ∧ Visits next mid rest out := by
  constructor
  · intro h
    induction items generalizing done with
    | nil => exact ⟨done, .nil done, h⟩
    | cons item items ih =>
      cases h with
      | pass hitem hrest =>
        obtain ⟨mid, hfirst, hsecond⟩ := ih hrest
        exact ⟨mid, .pass hitem hfirst, hsecond⟩
      | visit hitem hnext hrest =>
        obtain ⟨mid, hfirst, hsecond⟩ := ih hrest
        exact ⟨mid, .visit hitem hnext hfirst, hsecond⟩
  · rintro ⟨mid, hfirst, hsecond⟩
    induction hfirst with
    | nil done => exact hsecond
    | pass hitem _ ih => exact .pass hitem (ih hsecond)
    | visit hitem hnext _ _ ih => exact .visit hitem hnext (ih hsecond)

/-- A rule that passes from an item to its followers holds of all that is written down, if it holds
of the visited items and of what was written down before. -/
theorem forall_out {p : α → Prop} (h : Visits next done items out)
    (hnext : ∀ item, p item → ∀ follower ∈ next item, p follower)
    (hdone : ∀ item ∈ done, p item) (hitems : ∀ item ∈ items, p item) : ∀ item ∈ out, p item := by
  induction h with
  | nil done => exact hdone
  | pass _ _ ih =>
    rw [List.forall_mem_cons] at hitems
    exact ih hdone hitems.2
  | visit _ _ _ ihnext ihrest =>
    rw [List.forall_mem_cons] at hitems
    refine ihrest ?_ hitems.2
    have hmid := ihnext hdone (hnext _ hitems.1)
    exact List.forall_mem_append.2 ⟨hmid, List.forall_mem_singleton.2 hitems.1⟩

/-- Items may be called by other names, as long as no two of them get one name. -/
theorem map {p : α → Prop} (rename : α → β) (next' : β → List β) (h : Visits next done items out)
    (hnext : ∀ item, p item → ∀ follower ∈ next item, p follower)
    (hname : ∀ item, p item → next' (rename item) = (next item).map rename)
    (hinj : ∀ a b, p a → p b → rename a = rename b → a = b)
    (hdone : ∀ item ∈ done, p item) (hitems : ∀ item ∈ items, p item) :
    Visits next' (done.map rename) (items.map rename) (out.map rename) := by
  induction h with
  | nil done => exact .nil _
  | pass hitem _ ih =>
    rw [List.forall_mem_cons] at hitems
    exact .pass (List.mem_map_of_mem hitem) (ih hdone hitems.2)
  | @visit done rest mid out item hitem hvisit _ ihnext ihrest =>
    rw [List.forall_mem_cons] at hitems
    have hfollowers := hnext item hitems.1
    have hmid : ∀ a ∈ mid ++ [item], p a := by
      have hout := hvisit.forall_out hnext hdone hfollowers
      exact List.forall_mem_append.2 ⟨hout, List.forall_mem_singleton.2 hitems.1⟩
    have hnew : rename item ∉ done.map rename := by
      intro hmem
      obtain ⟨other, hother, hsame⟩ := List.mem_map.1 hmem
      exact hitem (hinj other item (hdone other hother) hitems.1 hsame ▸ hother)
    have hnext' := ihnext hdone hfollowers
    rw [← hname item hitems.1] at hnext'
    have hrest := ihrest hmid hitems.2
    rw [List.map_append, List.map_singleton] at hrest
    exact .visit hnew hnext' hrest

/-- Items that were all visited before add nothing. -/
theorem of_subset (h : ∀ item ∈ items, item ∈ done) : Visits next done items done := by
  induction items with
  | nil => exact .nil done
  | cons item items ih =>
    rw [List.forall_mem_cons] at h
    exact .pass h.1 (ih h.2)

/-- Items whose followers all stand before them are written down in turn. -/
theorem of_ordered (hnodup : (done ++ items).Nodup)
    (hbefore : ∀ front item back, items = front ++ item :: back →
      ∀ follower ∈ next item, follower ∈ done ++ front) :
    Visits next done items (done ++ items) := by
  induction items generalizing done with
  | nil =>
    rw [List.append_nil]
    exact .nil done
  | cons item items ih =>
    have hnot : item ∉ done := fun hmem =>
      List.disjoint_of_nodup_append hnodup hmem (List.mem_cons_self ..)
    have hfollowers : ∀ follower ∈ next item, follower ∈ done := by
      simpa using hbefore [] item items rfl
    have hrest : Visits next (done ++ [item]) items ((done ++ [item]) ++ items) := by
      refine ih (by simpa using hnodup) fun front other back he follower hfollower => ?_
      have hmem := hbefore (item :: front) other back (by rw [he]; rfl) follower hfollower
      simpa using hmem
    refine .visit hnot (of_subset hfollowers) ?_
    simpa using hrest

end Visits

/-! ## The walk follows the recursive definition -/

/-- A graph without circles: no edge is followed by a way back. -/
def Graph.IsAcyclic (graph : Graph) : Prop :=
  ∀ a b, graph.Edge a b → ¬graph.Reaches b a

namespace Walk

variable {graph : Graph} {roots : List Nat} {w : Walk} {v child : Nat} {pending : List Nat}
  {frames : List Frame}

/-! ### Single steps -/

section Steps

variable (graph)

theorem step_of_visited (hf : w.frames = ⟨v, child :: pending⟩ :: frames)
    (hchild : child ∈ w.visited) :
    w.step graph = { w with frames := ⟨v, pending⟩ :: frames } := by
  simp [step, hf, hchild]

theorem step_of_not_visited (hf : w.frames = ⟨v, child :: pending⟩ :: frames)
    (hchild : child ∉ w.visited) :
    w.step graph = visit graph { w with frames := ⟨v, pending⟩ :: frames } child := by
  simp [step, hf, hchild]

theorem step_of_pending_nil (hf : w.frames = ⟨v, []⟩ :: frames) :
    w.step graph = { w with frames := frames, left := v :: w.left } := by
  simp [step, hf]

end Steps

/-! ### Runs -/

theorem steps_add (m n : Nat) (w : Walk) :
    w.steps graph (m + n) = (w.steps graph m).steps graph n := by
  induction m generalizing w with
  | zero => rw [Nat.zero_add, steps]
  | succ m ih => rw [Nat.succ_add, steps, steps, ih]

/-- A walk that has ended after some steps has ended the same way after more. -/
theorem steps_eq_of_frames_nil {m n : Nat} (hm : (w.steps graph m).frames = [])
    (hn : (w.steps graph n).frames = []) : w.steps graph m = w.steps graph n := by
  rcases Nat.le_total m n with hle | hle
  · obtain ⟨k, rfl⟩ := Nat.exists_eq_add_of_le hle
    rw [steps_add, steps_of_frames_nil hm]
  · obtain ⟨k, rfl⟩ := Nat.exists_eq_add_of_le hle
    rw [steps_add, steps_of_frames_nil hn]

/-- A walk never has more to do later. -/
theorem remaining_steps (hg : graph.isClosed) (h : w.Sound graph roots) (n : Nat) :
    (w.steps graph n).remaining graph ≤ w.remaining graph := by
  induction n generalizing w with
  | zero => exact Nat.le_refl _
  | succ n ih =>
    by_cases hf : w.frames = []
    · rw [steps_of_frames_nil hf]
    · exact Nat.le_trans (ih h.step) (remaining_step hg h hf).le

/-! ### The recursion -/

/-- In a graph without circles, a node that was visited and follows the topmost one was left. -/
theorem Sound.mem_left (hacyclic : graph.IsAcyclic) (h : w.Sound graph roots)
    (hf : w.frames = ⟨v, pending⟩ :: frames) (hedge : graph.Edge v child)
    (hvisited : child ∈ w.visited) : child ∈ w.left := by
  refine ((h.mem_visited child).1 hvisited).resolve_left fun hpath => ?_
  have hchain := h.chain
  rw [path, hf, List.map_cons, List.pairwise_cons] at hchain
  rw [path, hf, List.map_cons, List.mem_cons] at hpath
  rcases hpath with rfl | hpath
  · exact hacyclic child child hedge .refl
  · exact hacyclic v child hedge (hchain.1 child hpath)

/-- What the topmost node has still to look at is visited as the recursive definition says; then the
node has nothing more to look at, and the nodes below it are as they were. -/
theorem Sound.exists_visits (hg : graph.isClosed) (hacyclic : graph.IsAcyclic)
    (h : w.Sound graph roots) (hf : w.frames = ⟨v, pending⟩ :: frames) :
    ∃ n out, Visits graph.next w.left.reverse pending out ∧
      (w.steps graph n).frames = ⟨v, []⟩ :: frames ∧
      (w.steps graph n).left = out.reverse := by
  -- every step leaves less to do, so the walk from a child and the walk after it are both shorter
  induction hwork : w.remaining graph using Nat.strong_induction_on
    generalizing w v pending frames with
  | _ work ih =>
    subst hwork
    cases pending with
    | nil => exact ⟨0, w.left.reverse, .nil _, hf, w.left.reverse_reverse.symm⟩
    | cons child rest =>
      have hedge : graph.Edge v child :=
        h.edge_pending ⟨v, child :: rest⟩ (by simp [hf]) child (by simp)
      have hless := remaining_step hg h (by simp [hf])
      by_cases hvisited : child ∈ w.visited
      · have hstep := step_of_visited graph hf hvisited
        have hleft := h.mem_left hacyclic hf hedge hvisited
        obtain ⟨n, out, hvisits, hframes, hout⟩ := ih _ hless h.step (by rw [hstep]) rfl
        rw [hstep] at hvisits
        exact ⟨n + 1, out, .pass (by simpa using hleft) hvisits, hframes, hout⟩
      · have hstep := step_of_not_visited graph hf hvisited
        have hnot : child ∉ w.left := fun hmem => hvisited ((h.mem_visited child).2 (Or.inr hmem))
        -- the walk goes down to the child and comes back with nothing of it left to look at
        have hbelow : (w.step graph).frames =
            ⟨child, graph.next child⟩ :: ⟨v, rest⟩ :: frames := by
          rw [hstep]
          rfl
        obtain ⟨n, mid, hdown, hframes, hmid⟩ := ih _ hless h.step hbelow rfl
        rw [hstep] at hdown
        -- then it leaves the child, and goes on with what is left of the node's edges
        have hback := step_of_pending_nil graph hframes
        have habove : ((w.step graph).steps graph n |>.step graph).frames =
            ⟨v, rest⟩ :: frames := by
          rw [hback]
        have hsound := h.step.steps n
        have hfewer := Nat.lt_of_lt_of_le (remaining_step hg hsound (by simp [hframes]))
          (remaining_steps hg h.step n)
        obtain ⟨m, out, hvisits, hframes', hout⟩ :=
          ih _ (Nat.lt_trans hfewer hless) hsound.step habove rfl
        have hdone : ((w.step graph).steps graph n |>.step graph).left.reverse =
            mid ++ [child] := by
          rw [hback, hmid]
          simp
        rw [hdone] at hvisits
        refine ⟨n + 1 + (m + 1), out, .visit (by simpa using hnot) hdown hvisits, ?_, ?_⟩
        · rw [steps_add]
          exact hframes'
        · rw [steps_add]
          exact hout

/-- A walk from one root visits it as the recursive definition says. -/
theorem Sound.visits_startAt (hg : graph.isClosed) (hacyclic : graph.IsAcyclic)
    (h : w.Sound graph roots) (hf : w.frames = []) {root : Nat} (hr : root ∈ roots)
    (hlt : root < graph.length) :
    Visits graph.next w.left.reverse [root] (w.startAt graph root).left.reverse := by
  by_cases hvisited : root ∈ w.visited
  · have hsame : w.startAt graph root = w := by simp [Walk.startAt, hvisited]
    have hleft : root ∈ w.left := by
      refine ((h.mem_visited root).1 hvisited).resolve_left ?_
      simp [path, hf]
    rw [hsame]
    exact .pass (List.mem_reverse.2 hleft) (.nil _)
  · have hstart : w.startAt graph root = (w.visit graph root).steps graph graph.work := by
      simp [Walk.startAt, hvisited]
    have hnot : root ∉ w.left := fun hmem => hvisited ((h.mem_visited root).2 (Or.inr hmem))
    have hvisit := h.visit hvisited ⟨root, hr, .refl⟩ (by simp [path, hf])
    have hend : ((w.visit graph root).steps graph graph.work).frames = [] :=
      hstart ▸ (h.startAt hg hf hr hlt).2.1
    have hroot : (w.visit graph root).frames = ⟨root, graph.next root⟩ :: w.frames := rfl
    obtain ⟨n, mid, hvisits, hframes, hmid⟩ := hvisit.exists_visits hg hacyclic hroot
    have hleave := step_of_pending_nil graph hframes
    have hsteps : (w.visit graph root).steps graph (n + 1) =
        ((w.visit graph root).steps graph n).step graph := steps_add n 1 _
    have hlast : ((w.visit graph root).steps graph (n + 1)).frames = [] := by
      rw [hsteps, hleave]
      exact hf
    have hout : (w.startAt graph root).left.reverse = mid ++ [root] := by
      rw [hstart, steps_eq_of_frames_nil hend hlast, hsteps, hleave, hmid]
      simp
    rw [hout]
    exact .visit (by simpa using hnot) hvisits (.nil _)

/-- Walks from several roots visit them as the recursive definition says. -/
theorem Sound.visits_foldl (hg : graph.isClosed) (hacyclic : graph.IsAcyclic)
    (h : w.Sound graph roots) (hf : w.frames = []) {starts : List Nat}
    (hs : ∀ r ∈ starts, r ∈ roots ∧ r < graph.length) :
    Visits graph.next w.left.reverse starts (starts.foldl (Walk.startAt graph) w).left.reverse := by
  induction starts generalizing w with
  | nil => exact .nil _
  | cons root starts ih =>
    rw [List.forall_mem_cons] at hs
    obtain ⟨hsound, hnil, _, _⟩ := h.startAt hg hf hs.1.1 hs.1.2
    exact Visits.append_iff.2
      ⟨_, h.visits_startAt hg hacyclic hf hs.1.1 hs.1.2, ih hsound hnil hs.2⟩

end Walk

/-- In a graph without circles a walk leaves the nodes in the order of the recursive definition. -/
theorem Graph.visits_postorder {graph : Graph} {roots : List Nat} (hg : graph.isClosed)
    (hacyclic : graph.IsAcyclic) (hr : ∀ r ∈ roots, r < graph.length) :
    Visits graph.next [] roots (graph.postorder roots) :=
  (Walk.sound_empty graph roots).visits_foldl hg hacyclic rfl fun r h => ⟨h, hr r h⟩

end SchemaCodegen.Dependency
