import SchemaCodegen.Proofs.Dependency.NestedLoop
import SchemaCodegen.Proofs.Dependency.SearchRun

/-!
# Proofs: the search never fails

A search with a journal makes the steps of the search one by one, with no bound on their number. It
notes which nodes are put on the stack and taken off, and fails if it asks for a node that the graph
does not have, for the low number of a node that is not on the stack, or for a node on a stack that
is empty. Main statement: it ends without failing, in the state of the search; the marks tell at any
time what is on the stack, every node is put on it once and taken off once, and nothing is on it
between two roots.
-/

namespace SchemaCodegen.Dependency

/-- Whether a node with this mark is on the stack. -/
def Mark.isEntered : Mark → Bool
  | .entered .. => true
  | _ => false

namespace Search

variable {graph : Graph} {s : Search}

/-! ## The loops -/

/-- Takes nodes off a stack one after another until the given one is off: the nodes and the rest.
There is no result if the stack is empty before. -/
def takeOff? (node : Nat) : List Nat → Option (List Nat × List Nat)
  | [] => none
  | top :: rest =>
    if top = node then some ([top], rest)
    else (takeOff? node rest).map fun (taken, left) => (top :: taken, left)

/-- A search with a journal of its stack. -/
structure Journal where
  /-- The state of the search. -/
  search : Search
  /-- The nodes that were put on the stack, the latest first. -/
  pushed : List Nat := []
  /-- The nodes that were taken off the stack, the latest first. -/
  popped : List Nat := []

namespace Journal

/-- The journal with other frames in the search. -/
def withFrames (j : Journal) (frames : List Frame) : Journal :=
  { j with search := { j.search with frames := frames } }

/-- Enters a node of the graph, which comes on the stack. -/
def enter? (graph : Graph) (j : Journal) (node : Nat) : Option Journal :=
  if node < graph.length then
    some { j with search := j.search.enter graph node, pushed := node :: j.pushed }
  else none

/-- Lowers the low number of a node on the stack. -/
def lowerTo? (bound : Nat) (j : Journal) (node : Nat) : Option Journal :=
  match j.search.marks[node]? with
  | some (.entered ..) => some { j with search := j.search.lowerTo bound node }
  | _ => none

/-- Looks at the edge from `node` to `child`. -/
def look? (graph : Graph) (j : Journal) (node child : Nat) : Option Journal :=
  match j.search.marks[child]? with
  | some .unseen => j.enter? graph child
  | some (.entered index _) => j.lowerTo? index node
  | some (.closed _) => some j
  | none => none

/-- Hands the low number of a node that is left to the node below it. -/
def handDown? (low : Nat) (j : Journal) : Option Journal :=
  match j.search.frames with
  | [] => some j
  | frame :: _ => j.lowerTo? low frame.node

/-- Closes the component of a node: the nodes down to it are taken off the stack. -/
def close? (j : Journal) (node : Nat) : Option Journal :=
  (takeOff? node j.search.stack).map fun (taken, left) =>
    { j with
      search := { j.search with
        marks := closeAll j.search.components j.search.marks taken
        stack := left
        components := j.search.components + 1 }
      popped := taken.reverse ++ j.popped }

/-- Leaves the topmost node, whose frame is already taken off. -/
def leave? (j : Journal) (node : Nat) : Option Journal :=
  match j.search.marks[node]? with
  | some (.entered index low) =>
    (j.handDown? low).bind fun j => if low = index then j.close? node else some j
  | _ => none

/-- Looks at the next edge of the topmost node, or leaves it. -/
def step? (graph : Graph) (j : Journal) : Option Journal :=
  match j.search.frames with
  | [] => none
  | ⟨node, []⟩ :: frames => (j.withFrames frames).leave? node
  | ⟨node, child :: pending⟩ :: frames =>
    (j.withFrames (⟨node, pending⟩ :: frames)).look? graph node child

/-- Enters a root unless it was entered before. -/
def tryRoot? (graph : Graph) (j : Journal) (root : Nat) : Option Journal :=
  j.search.marks[root]?.bind fun mark =>
    if mark = .unseen then j.enter? graph root else some j

/-- The loops of the search: for each root, steps are made as long as there is a frame. -/
def loop (graph : Graph) : NestedLoop Journal where
  isIdle j := j.search.frames.isEmpty
  tryRoot? := tryRoot? graph
  turn? := step? graph

end Journal

/-! ## Each operation finds what it asks for -/

theorem takeOff?_eq {v : Nat} {stack : List Nat} (h : v ∈ stack) :
    takeOff? v stack = some (cutBelow v stack) := by
  induction stack with
  | nil => cases h
  | cons top rest ih =>
    rw [takeOff?, cutBelow]
    split
    · rfl
    · next hne =>
      have hrest : v ∈ rest := (List.mem_cons.1 h).resolve_left (Ne.symm hne)
      rw [ih hrest]
      rfl

theorem getElem?_marks {v : Nat} (h : v < s.marks.length) : s.marks[v]? = some (s.mark v) := by
  rw [mark, List.getElem?_eq_getElem h, Option.getD_some]

theorem getElem?_marks_of_entered {v i l : Nat} (h : s.mark v = .entered i l) :
    s.marks[v]? = some (.entered i l) := by
  have hlt : v < s.marks.length := lt_length_of_mark (by simp [h])
  rw [getElem?_marks hlt, h]

namespace Journal

variable {j : Journal}

theorem lowerTo?_eq {v i l : Nat} (h : j.search.mark v = .entered i l) (bound : Nat) :
    j.lowerTo? bound v = some { j with search := j.search.lowerTo bound v } := by
  rw [lowerTo?, getElem?_marks_of_entered h]

theorem handDown?_eq (h : ∀ frame ∈ j.search.frames, ∃ i l, j.search.mark frame.node = .entered i l)
    (low : Nat) : j.handDown? low = some { j with search := j.search.handDown low } := by
  rw [handDown?, handDown]
  cases hf : j.search.frames with
  | nil => rfl
  | cons frame frames =>
    obtain ⟨i, l, hm⟩ := h frame (by simp [hf])
    exact lowerTo?_eq hm low

theorem close?_eq {v : Nat} (h : v ∈ j.search.stack) :
    j.close? v = some { j with
      search := j.search.close v
      popped := (cutBelow v j.search.stack).1.reverse ++ j.popped } := by
  rw [close?, takeOff?_eq h]
  rfl

/-! ## What the journal tells -/

/-- The journal is true: every node that was seen was put on the stack once, and is still on it or
was taken off. -/
structure IsTrue (graph : Graph) (j : Journal) : Prop where
  /-- What was put on the stack was taken off or is still on it. -/
  perm : j.pushed.Perm (j.popped ++ j.search.stack)
  /-- No node was put on the stack twice. -/
  nodup : j.pushed.Nodup
  /-- The nodes that were put on the stack are those that were seen. -/
  mem_pushed : ∀ v, v ∈ j.pushed ↔ v < graph.length ∧ j.search.mark v ≠ .unseen

theorem IsTrue.withFrames (h : j.IsTrue graph) (frames : List Frame) :
    (j.withFrames frames).IsTrue graph :=
  ⟨h.perm, h.nodup, h.mem_pushed⟩

theorem IsTrue.enter (h : j.IsTrue graph) {c : Nat} (hlt : c < graph.length)
    (hc : j.search.mark c = .unseen) :
    IsTrue graph { j with search := j.search.enter graph c, pushed := c :: j.pushed } where
  perm := (h.perm.cons c).trans List.perm_middle.symm
  nodup := List.nodup_cons.2 ⟨fun hmem => ((h.mem_pushed c).1 hmem).2 hc, h.nodup⟩
  mem_pushed v := by
    show v ∈ c :: j.pushed ↔ _
    rw [mark_enter hc, List.mem_cons, h.mem_pushed]
    split
    · next e => simp [e, hlt]
    · next hne => simp [hne]

/-- Nodes may be taken off the stack, and the state may change in other ways, as long as no node is
seen by that. -/
theorem IsTrue.takeOff (h : j.IsTrue graph) {t : Search} {taken : List Nat}
    (hstack : j.search.stack = taken ++ t.stack)
    (hseen : ∀ v, t.mark v = .unseen ↔ j.search.mark v = .unseen) :
    IsTrue graph { j with search := t, popped := taken.reverse ++ j.popped } where
  perm := by
    have hfront : (j.popped ++ taken).Perm (taken.reverse ++ j.popped) :=
      List.perm_append_comm.trans ((List.reverse_perm taken).symm.append_right j.popped)
    have hperm := h.perm
    rw [hstack, ← List.append_assoc] at hperm
    exact hperm.trans (hfront.append_right t.stack)
  nodup := h.nodup
  mem_pushed v := by
    rw [h.mem_pushed v]
    exact and_congr_right fun _ => not_congr (hseen v).symm

/-- A node of the stack is left without failing, if the path lies on the stack. -/
theorem IsTrue.exists_leave? (h : j.IsTrue graph) {v : Nat} (hv : v ∈ j.search.stack)
    (hopen : ∀ x ∈ j.search.stack, ∃ i l, j.search.mark x = .entered i l)
    (hpath : ∀ frame ∈ j.search.frames, frame.node ∈ j.search.stack) :
    ∃ popped, j.leave? v = some { j with search := j.search.leave v, popped := popped } ∧
      IsTrue graph { j with search := j.search.leave v, popped := popped } := by
  obtain ⟨i, l, hm⟩ := hopen v hv
  have hne : ∀ x ∈ j.search.stack, j.search.mark x ≠ .unseen := by
    intro x hx
    obtain ⟨k, m, hentered⟩ := hopen x hx
    simp [hentered]
  have hseen := unseen_leave_iff hne v
  have hstack : (j.search.handDown l).stack = j.search.stack := by rw [handDown_eq]
  have hdown := handDown?_eq (fun frame hframe => hopen _ (hpath frame hframe)) l
  rw [leave?, getElem?_marks_of_entered hm]
  simp only [hdown, Option.bind_some]
  by_cases hroot : l = i
  · have hleave : j.search.leave v = (j.search.handDown l).close v := by
      rw [leave, hm]
      exact if_pos hroot
    have hcut : j.search.stack = (cutBelow v (j.search.handDown l).stack).1 ++
        ((j.search.handDown l).close v).stack := by
      rw [← hstack]
      exact (append_cutBelow v _).symm
    rw [if_pos hroot, hleave, close?_eq (hstack.symm ▸ hv)]
    exact ⟨_, rfl, h.takeOff hcut (hleave ▸ hseen)⟩
  · have hleave : j.search.leave v = j.search.handDown l := by
      rw [leave, hm]
      exact if_neg hroot
    have hnone : j.search.stack = [] ++ (j.search.handDown l).stack := hstack.symm
    rw [if_neg hroot, hleave]
    exact ⟨j.popped, rfl, h.takeOff hnone (hleave ▸ hseen)⟩

/-- An edge of a node on the stack is looked at without failing, if it ends in the graph. -/
theorem IsTrue.exists_look? (h : j.IsTrue graph) (hlen : j.search.marks.length = graph.length)
    {v c i l : Nat} (hv : j.search.mark v = .entered i l) (hc : c < graph.length) :
    ∃ pushed, j.look? graph v c = some { j with
        search := j.search.look graph v c
        pushed := pushed } ∧
      IsTrue graph { j with search := j.search.look graph v c, pushed := pushed } := by
  rw [look?, getElem?_marks (hlen.symm ▸ hc), look]
  cases hm : j.search.mark c with
  | unseen => exact ⟨c :: j.pushed, if_pos hc, h.enter hc hm⟩
  | entered k m =>
    have hnone : j.search.stack = [] ++ (j.search.lowerTo k v).stack := by
      rw [lowerTo_eq, List.nil_append]
    exact ⟨j.pushed, lowerTo?_eq hv k, h.takeOff hnone (unseen_lowerTo_iff k v)⟩
  | closed d => exact ⟨j.pushed, rfl, h⟩

/-! ## The loops are safe -/

/-- The invariant of a search with a journal. -/
structure Sound (graph : Graph) (j : Journal) : Prop
    extends j.search.Sound graph, j.IsTrue graph where
  /-- No more is left to do than the work of the graph. -/
  remaining_le : j.search.remaining graph ≤ graph.work

/-- A step is made without failing as long as there is a frame. -/
theorem Sound.exists_step? (hg : graph.isClosed) (h : j.Sound graph) (hf : j.search.frames ≠ []) :
    ∃ pushed popped, j.step? graph = some ⟨j.search.step graph, pushed, popped⟩ ∧
      IsTrue graph ⟨j.search.step graph, pushed, popped⟩ := by
  cases hframes : j.search.frames with
  | nil => exact absurd hframes hf
  | cons top frames =>
    have hpath : ∀ frame ∈ top :: frames, frame.node ∈ j.search.stack := by
      intro frame hframe
      rw [← hframes] at hframe
      exact h.mem_stack_of_path (List.mem_map_of_mem hframe)
    rw [List.forall_mem_cons] at hpath
    obtain ⟨v, pending⟩ := top
    rw [step?, step, hframes]
    cases pending with
    | nil =>
      obtain ⟨popped, hleave, hrest⟩ := (h.toIsTrue.withFrames frames).exists_leave? (v := v)
        hpath.1 (fun x hx => (h.mem_stack x).1 hx) hpath.2
      exact ⟨j.pushed, popped, hleave, hrest⟩
    | cons c pending =>
      obtain ⟨i, l, hm⟩ := (h.mem_stack v).1 hpath.1
      have hedge : graph.Edge v c :=
        h.edge_pending ⟨v, c :: pending⟩ (by simp [hframes]) c (by simp)
      obtain ⟨pushed, hlook, hrest⟩ := (h.toIsTrue.withFrames (⟨v, pending⟩ :: frames)).exists_look?
        h.length_marks hm (hedge.lt_length_of_isClosed hg)
      exact ⟨pushed, j.popped, hlook, hrest⟩

/-- After a step a search that has no more to do than the given number of steps ends as before. -/
theorem steps_step (h : s.Sound graph) {n : Nat} (hn : s.remaining graph ≤ n) :
    (s.step graph).steps graph n = s.steps graph n := by
  have hlater : ∀ n s, (step graph s).steps graph n = (s.steps graph n).step graph := by
    intro n
    induction n with
    | zero => exact fun s => rfl
    | succ n ih => exact fun s => ih (s.step graph)
  rw [hlater, step, (frames_steps h hn).1]

theorem isSafe_loop (hg : graph.isClosed) :
    (loop graph).IsSafe (List.range graph.length) (Sound graph) (fun j => j.search.remaining graph)
      (fun j => j.search.steps graph graph.work) (Search.startAt graph) where
  root j h hidle root hroot := by
    have hf : j.search.frames = [] := List.isEmpty_iff.1 hidle
    have hlt : root < graph.length := List.mem_range.1 hroot
    have hmark := getElem?_marks (h.length_marks.symm ▸ hlt)
    rw [steps_of_frames_nil hf]
    show ∃ k, j.tryRoot? graph root = some k ∧ _
    rw [tryRoot?, hmark, Option.bind_some, startAt]
    by_cases hm : j.search.mark root = .unseen
    · rw [if_pos hm, hm]
      refine ⟨_, if_pos hlt, ?_, rfl⟩
      exact
        { toSound := h.toSound.enter hm (by simp [path, hf])
          toIsTrue := h.toIsTrue.enter hlt hm
          remaining_le := Nat.le_trans (remaining_enter hm hlt) h.remaining_le }
    · rw [if_neg hm]
      refine ⟨j, rfl, h, ?_⟩
      rw [steps_of_frames_nil hf]
      split
      · next hu => exact absurd hu hm
      · rfl
  turn j h hidle := by
    have hf : j.search.frames ≠ [] := fun he => hidle (List.isEmpty_iff.2 he)
    obtain ⟨pushed, popped, hstep, htrue⟩ := h.exists_step? hg hf
    have hless := (remaining_step h.toSound hf).1
    refine ⟨_, hstep, ?_, hless, steps_step h.toSound h.remaining_le⟩
    exact
      { toSound := h.toSound.step
        toIsTrue := htrue
        remaining_le := Nat.le_trans hless.le h.remaining_le }

/-! ## The whole search -/

/-- What a search with a journal shows at any time. -/
structure IsConsistent (j : Journal) : Prop where
  /-- The marks tell which nodes are on the stack. -/
  mem_stack_iff : ∀ v, v ∈ j.search.stack ↔ (j.search.mark v).isEntered
  /-- No node is on the stack twice. -/
  nodup : j.search.stack.Nodup
  /-- A node that is still to be left is found before the stack is empty. -/
  found : ∀ v ∈ j.search.path, (takeOff? v j.search.stack).isSome
  /-- What was put on the stack was taken off or is still on it. -/
  perm : j.pushed.Perm (j.popped ++ j.search.stack)
  /-- Between two roots the stack is empty. -/
  idle : j.search.frames = [] → j.search.stack = []

theorem Sound.isConsistent (h : j.Sound graph) : j.IsConsistent where
  mem_stack_iff v := by
    rw [h.mem_stack v]
    cases j.search.mark v <;> simp [Mark.isEntered]
  nodup := h.sorted.imp fun hlt e => by
    rw [e] at hlt
    exact Nat.lt_irrefl _ hlt
  found v hv := by
    rw [takeOff?_eq (h.mem_stack_of_path hv)]
    rfl
  perm := h.perm
  idle hf := by
    refine List.eq_nil_iff_forall_not_mem.2 fun x hx => ?_
    obtain ⟨p, hp, _⟩ := h.owned x hx
    simp [path, hf] at hp

theorem sound_initial (graph : Graph) : Sound graph { search := initial graph } where
  toSound := (idle_initial graph).toSound
  perm := List.Perm.nil
  nodup := List.nodup_nil
  mem_pushed v := by simpa [initial, mark] using fun hv => by simp [hv]
  remaining_le := remaining_le_work (idle_initial graph).frames_nil

end Journal

end Search

/-- The search of a graph with a journal: the states that it goes through, and the last one. -/
structure Graph.IsSearched (graph : Graph) (states : List Search.Journal) (last : Search.Journal) :
    Prop where
  /-- The loops run to their ends without failing. -/
  runs : (Search.Journal.loop graph).Runs { search := Search.initial graph }
    (List.range graph.length) states last
  /-- The states are consistent at any time. -/
  consistent : ∀ j ∈ states, j.IsConsistent
  /-- The loops end in the state of the search. -/
  search_eq : last.search = graph.search
  /-- Every node was put on the stack once. -/
  pushed : last.pushed.Perm (List.range graph.length)
  /-- Every node was taken off the stack once. -/
  popped : last.popped.Perm (List.range graph.length)

theorem Graph.exists_isSearched {graph : Graph} (hg : graph.isClosed) :
    ∃ states last, graph.IsSearched states last := by
  obtain ⟨states, last, hruns, hsound, hresult⟩ :=
    (Search.Journal.isSafe_loop hg).runsToEnd (fun _ hr => hr) (Search.Journal.sound_initial graph)
  have hlast := hsound last hruns.last_mem
  have hf : last.search.frames = [] := List.isEmpty_iff.1 hruns.isIdle_last
  have hsearch : last.search = graph.search := by
    dsimp only at hresult
    rwa [Search.steps_of_frames_nil hf,
      Search.steps_of_frames_nil (Search.idle_initial graph).frames_nil] at hresult
  have hpushed : last.pushed.Perm (List.range graph.length) := by
    refine (List.perm_ext_iff_of_nodup hlast.nodup List.nodup_range).2 fun v => ?_
    rw [hlast.mem_pushed v, List.mem_range, hsearch]
    refine and_iff_left_of_imp fun hv => ?_
    obtain ⟨c, hc⟩ := graph.closed_of_search hv
    simp [hc]
  have hpopped := hlast.perm
  rw [hlast.isConsistent.idle hf, List.append_nil] at hpopped
  exact ⟨states, last,
    { runs := hruns
      consistent := fun j hj => (hsound j hj).isConsistent
      search_eq := hsearch
      pushed := hpushed
      popped := hpopped.symm.trans hpushed }⟩

/-- A search that is led out of the graph fails. -/
example : ((({ search := Search.initial [[1]] } : Search.Journal).tryRoot? [[1]] 0).bind
    (Search.Journal.step? [[1]])).isNone := by decide

end SchemaCodegen.Dependency
