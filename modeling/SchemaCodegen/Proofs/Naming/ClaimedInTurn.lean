import SchemaCodegen.Proofs.Naming.FreeName

/-!
# Proofs: names claimed in turn

A search for a free name puts underscores to a name as long as the name is taken. It has no bound of
its own, but it ends, because only finitely many names are taken. When names are claimed in turn,
each search sees the names that were taken at the start and those that were claimed before. Main
statement: every search ends at the name that was asked for with the fewest underscores that make it
free, so the claimed names are all new and different, and just they are taken in the end.
-/

namespace SchemaCodegen.Naming

variable {taken : List String} {name free : String}

/-! ## One search -/

/-- The search for a free name, with no bound on its length. -/
inductive FindsFree (taken : List String) : String → String → Prop where
  /-- It ends at a name that is not taken. -/
  | found {name : String} (hname : name ∉ taken) : FindsFree taken name name
  /-- It goes on from a taken name with one more underscore. -/
  | more {name free : String} (hname : name ∈ taken)
      (hrest : FindsFree taken (name.push '_') free) : FindsFree taken name free

/-- A free name that is a name with underscores, fewer of which would leave it taken. -/
structure IsLeastFree (taken : List String) (name free : String) : Prop where
  /-- It is not taken. -/
  not_mem : free ∉ taken
  /-- All shorter extensions are taken. -/
  least : ∃ n, free = extended name n ∧ ∀ k < n, extended name k ∈ taken

theorem IsLeastFree.findsFree (h : IsLeastFree taken name free) : FindsFree taken name free := by
  obtain ⟨hfree, n, rfl, htaken⟩ := h
  induction n generalizing name with
  | zero => exact .found hfree
  | succ n ih =>
    have hname : name ∈ taken := htaken 0 (Nat.zero_lt_succ n)
    have hlonger : ∀ k < n, extended (name.push '_') k ∈ taken :=
      fun k hk => htaken (k + 1) (Nat.succ_lt_succ hk)
    exact .more hname (ih hlonger hfree)

/-- What is free depends only on which names are taken, not on how they are listed. -/
theorem IsLeastFree.congr {others : List String} (h : IsLeastFree taken name free)
    (hsame : ∀ word, word ∈ taken ↔ word ∈ others) : IsLeastFree others name free := by
  obtain ⟨hfree, n, heq, htaken⟩ := h
  refine ⟨fun hmem => hfree ((hsame free).2 hmem), n, heq, fun k hk => ?_⟩
  exact (hsame _).1 (htaken k hk)

theorem isLeastFree_freeName (taken : List String) (name : String) :
    IsLeastFree taken name (freeName taken name) :=
  ⟨freeName_not_mem taken name, exists_freeName_eq_extended taken name⟩

/-! ## Searches in turn -/

/-- What claiming names in turn gives: a free name for each name that was asked for, and all names
that are taken afterwards. -/
structure ClaimsInTurn (taken names frees all : List String) : Prop where
  /-- Every name gets an answer. -/
  length_eq : frees.length = names.length
  /-- Each search ends, among the names taken at the start and the answers before. -/
  finds : ∀ i name free, names[i]? = some name → frees[i]? = some free →
    FindsFree (taken ++ frees.take i) name free
  /-- Each answer is the name that was asked for with the fewest underscores that make it free. -/
  least : ∀ i name free, names[i]? = some name → frees[i]? = some free →
    IsLeastFree (taken ++ frees.take i) name free
  /-- The answers are all different. -/
  nodup : frees.Nodup
  /-- No answer was taken at the start. -/
  apart : ∀ free ∈ frees, free ∉ taken
  /-- In the end just the answers have become taken. -/
  mem_all : ∀ word, word ∈ all ↔ word ∈ taken ∨ word ∈ frees

/-- The answer at a place is least among the names taken at the start and the answers before. -/
theorem isLeastFree_claimAll {names : List String} {i : Nat} (hname : names[i]? = some name)
    (hfree : (claimAll taken names).1[i]? = some free) :
    IsLeastFree (taken ++ (claimAll taken names).1.take i) name free := by
  induction names generalizing taken i with
  | nil => simp at hname
  | cons first names ih =>
    rw [claimAll] at hfree ⊢
    cases i with
    | zero =>
      obtain rfl : first = name := by simpa using hname
      obtain rfl : freeName taken first = free := by simpa using hfree
      rw [List.take_zero, List.append_nil]
      exact isLeastFree_freeName taken first
    | succ i =>
      rw [List.getElem?_cons_succ] at hname hfree
      refine (ih hname hfree).congr fun word => ?_
      simp only [List.take_succ_cons, List.mem_append, List.mem_cons, or_assoc, or_left_comm]

/-- The answers are put in front of the taken names one after another. -/
theorem snd_claimAll (taken names : List String) :
    (claimAll taken names).2 = (claimAll taken names).1.reverse ++ taken := by
  induction names generalizing taken with
  | nil => rfl
  | cons name names ih =>
    rw [claimAll]
    simp only [ih, List.reverse_cons, List.append_assoc, List.singleton_append]

theorem claimsInTurn_claimAll (taken names : List String) :
    ClaimsInTurn taken names (claimAll taken names).1 (claimAll taken names).2 where
  length_eq := length_claimAll taken names
  finds _ _ _ hname hfree := (isLeastFree_claimAll hname hfree).findsFree
  least _ _ _ hname hfree := isLeastFree_claimAll hname hfree
  nodup := nodup_claimAll taken names
  apart := not_mem_of_mem_claimAll
  mem_all word := by
    rw [snd_claimAll, List.mem_append, List.mem_reverse, or_comm]

end SchemaCodegen.Naming
