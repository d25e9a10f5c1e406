import Mathlib.Order.Basic

/-!
# Proofs: loops that may fail

A loop over roots takes one root after another, and for each of them an inner loop runs until it is
idle again. Either loop fails where a root cannot be taken or a turn cannot be made; nothing bounds
the number of turns. Loops whose states keep an invariant under which they never fail, and under
which every turn leaves less work to do, run to their ends.
-/

namespace SchemaCodegen.Dependency

/-- A loop over roots with a loop inside. -/
structure NestedLoop (State : Type) where
  /-- Whether the inner loop is over. -/
  isIdle : State → Bool
  /-- Takes the next root, if that does not fail. -/
  tryRoot? : State → Nat → Option State
  /-- Makes one turn of the inner loop, if that does not fail. -/
  turn? : State → Option State

variable {State Result : Type} {loop : NestedLoop State}

/-- The loops run to their ends: with the roots that are still to come, they go from a state through
the listed ones, the first and the last included. -/
inductive NestedLoop.Runs (loop : NestedLoop State) :
    State → List Nat → List State → State → Prop where
  /-- No root is left. -/
  | ended {s : State} (hidle : loop.isIdle s) : Runs loop s [] [s] s
  /-- The inner loop is over, and the next root is taken. -/
  | root {s t last : State} {root : Nat} {roots : List Nat} {states : List State}
      (hidle : loop.isIdle s) (hroot : loop.tryRoot? s root = some t)
      (hrest : Runs loop t roots states last) : Runs loop s (root :: roots) (s :: states) last
  /-- The inner loop makes a turn. -/
  | turn {s t last : State} {roots : List Nat} {states : List State} (hidle : ¬loop.isIdle s)
      (hturn : loop.turn? s = some t) (hrest : Runs loop t roots states last) :
      Runs loop s roots (s :: states) last

namespace NestedLoop

theorem Runs.isIdle_last {s last : State} {roots : List Nat} {states : List State}
    (h : loop.Runs s roots states last) : loop.isIdle last := by
  induction h with
  | ended hidle => exact hidle
  | root _ _ _ ih => exact ih
  | turn _ _ _ ih => exact ih

theorem Runs.last_mem {s last : State} {roots : List Nat} {states : List State}
    (h : loop.Runs s roots states last) : last ∈ states := by
  induction h with
  | ended _ => exact List.mem_singleton_self _
  | root _ _ _ ih => exact List.mem_cons_of_mem _ ih
  | turn _ _ _ ih => exact List.mem_cons_of_mem _ ih

/-- Loops under an invariant that never fail. The result that a state leads to does not change by a
turn, and changes by a root as `startAt` says. -/
structure IsSafe (loop : NestedLoop State) (items : List Nat) (Inv : State → Prop)
    (work : State → Nat) (result : State → Result) (startAt : Result → Nat → Result) : Prop where
  /-- Every item may be taken as a root. -/
  root : ∀ s, Inv s → loop.isIdle s → ∀ root ∈ items,
    ∃ t, loop.tryRoot? s root = some t ∧ Inv t ∧ result t = startAt (result s) root
  /-- Every turn leaves less work to do. -/
  turn : ∀ s, Inv s → ¬loop.isIdle s →
    ∃ t, loop.turn? s = some t ∧ Inv t ∧ work t < work s ∧ result t = result s

variable {items roots : List Nat} {Inv : State → Prop} {work : State → Nat}
  {result : State → Result} {startAt : Result → Nat → Result} {s : State}

/-- The loops run to their ends under the invariant, with the result that they lead to. -/
def RunsToEnd (loop : NestedLoop State) (Inv : State → Prop) (result : State → Result)
    (startAt : Result → Nat → Result) (roots : List Nat) (s : State) : Prop :=
  ∃ states last, loop.Runs s roots states last ∧ (∀ t ∈ states, Inv t) ∧
    result last = roots.foldl startAt (result s)

/-- If the loops run to their ends from where the inner one is over, they do so from anywhere. -/
theorem IsSafe.runsToEnd_of_idle (hsafe : loop.IsSafe items Inv work result startAt)
    (hidle : ∀ s, Inv s → loop.isIdle s → loop.RunsToEnd Inv result startAt roots s)
    (hs : Inv s) : loop.RunsToEnd Inv result startAt roots s := by
  induction hwork : work s using Nat.strongRecOn generalizing s with
  | ind n ih =>
    by_cases h : loop.isIdle s
    · exact hidle s hs h
    · obtain ⟨t, hturn, ht, hless, hsame⟩ := hsafe.turn s hs h
      obtain ⟨states, last, hruns, hall, hlast⟩ := ih (work t) (hwork ▸ hless) ht rfl
      rw [hsame] at hlast
      exact ⟨s :: states, last, .turn h hturn hruns, List.forall_mem_cons.2 ⟨hs, hall⟩, hlast⟩

/-- Safe loops run to their ends. -/
theorem IsSafe.runsToEnd (hsafe : loop.IsSafe items Inv work result startAt)
    (hroots : ∀ r ∈ roots, r ∈ items) (hs : Inv s) :
    loop.RunsToEnd Inv result startAt roots s := by
  induction roots generalizing s with
  | nil =>
    refine hsafe.runsToEnd_of_idle (fun s hs hidle => ?_) hs
    exact ⟨[s], s, .ended hidle, List.forall_mem_singleton.2 hs, rfl⟩
  | cons root roots ih =>
    rw [List.forall_mem_cons] at hroots
    refine hsafe.runsToEnd_of_idle (fun s hs hidle => ?_) hs
    obtain ⟨t, hroot, ht, hstart⟩ := hsafe.root s hs hidle root hroots.1
    obtain ⟨states, last, hruns, hall, hlast⟩ := ih hroots.2 ht
    rw [hstart] at hlast
    exact ⟨s :: states, last, .root hidle hroot hruns, List.forall_mem_cons.2 ⟨hs, hall⟩, hlast⟩

end NestedLoop

end SchemaCodegen.Dependency
