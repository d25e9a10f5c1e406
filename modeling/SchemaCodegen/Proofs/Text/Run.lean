import Mathlib.Algebra.Ring.Parity
import Mathlib.Data.List.DropRight

/-!
# Proofs: runs at the end of a text

A reader that takes characters of one kind two at a time depends on whether the run of them that
ends a text is of even length. A character in front of a text is part of that run only if the text
is nothing else, and two more at its start make no difference.
-/

namespace SchemaCodegen.Text

/-- How many times a character stands at the end of a text, one beside another. -/
def runAtEnd (c : Char) (cs : List Char) : Nat :=
  (cs.rtakeWhile (· == c)).length

variable {c d : Char} {cs : List Char}

/-- A character in front does not count, unless it is the one and nothing else is behind it. -/
theorem runAtEnd_cons (h : d = c → ∃ e ∈ cs, e ≠ c) : runAtEnd c (d :: cs) = runAtEnd c cs := by
  unfold runAtEnd List.rtakeWhile
  rw [List.reverse_cons, List.takeWhile_append]
  split
  · next hlength =>
    have hself := (List.takeWhile_prefix (· == c)).eq_of_length hlength
    have hd : d ≠ c := by
      intro hd
      obtain ⟨e, he, hne⟩ := h hd
      exact hne (beq_iff_eq.1 (List.takeWhile_eq_self_iff.1 hself e (List.mem_reverse.2 he)))
    rw [hself, List.takeWhile_cons_of_neg (by simpa using hd), List.append_nil]
  · rfl

theorem runAtEnd_of_forall (h : ∀ e ∈ cs, e = c) : runAtEnd c cs = cs.length := by
  have hall : ∀ e ∈ cs, (e == c) = true := fun e he => beq_iff_eq.2 (h e he)
  rw [runAtEnd, List.rtakeWhile_eq_self_iff.2 hall]

/-- Two more characters in front do not change whether the number is even. -/
theorem even_runAtEnd_pair : Even (runAtEnd c (c :: c :: cs)) ↔ Even (runAtEnd c cs) := by
  by_cases h : ∀ e ∈ cs, e = c
  · have hpair : ∀ e ∈ c :: c :: cs, e = c :=
      List.forall_mem_cons.2 ⟨rfl, List.forall_mem_cons.2 ⟨rfl, h⟩⟩
    rw [runAtEnd_of_forall hpair, runAtEnd_of_forall h, List.length_cons, List.length_cons,
      Nat.even_add_one, Nat.even_add_one, not_not]
  · push Not at h
    obtain ⟨e, he, hne⟩ := h
    rw [runAtEnd_cons fun _ => ⟨e, List.mem_cons_of_mem _ he, hne⟩,
      runAtEnd_cons fun _ => ⟨e, he, hne⟩]

end SchemaCodegen.Text
