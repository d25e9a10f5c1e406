import SchemaCodegen.Proofs.ServerDefault.Balance
import SchemaCodegen.Proofs.Text.Trim
import SchemaCodegen.ServerDefault.Parentheses

/-!
# Proofs: outer parentheses

One pair of parentheses wraps an expression when a balanced expression stands between them. Taking
such pairs away, with the blanks around, ends at an expression that is trimmed and not wrapped, and
leaves such an expression alone.
-/

namespace SchemaCodegen.ServerDefault

open SchemaCodegen.Text

/-! ## Wrapped expressions -/

/-- The first character that closes all open parentheses, one of them around the text, is the last
exactly when the text before it is scanned to its end without that one. -/
theorem closesAtEnd_within_iff {b : Balance} {cs : List Char} :
    closesAtEnd (b.within 1) cs = true ↔
      ∃ body, cs = body ++ [')'] ∧ b.scan body = some {} := by
  induction cs generalizing b with
  | nil => simp [closesAtEnd]
  | cons c cs ih =>
    rw [closesAtEnd]
    cases hstep : b.step c with
    | none =>
      obtain ⟨rfl, rfl⟩ := Balance.step_eq_none_iff.1 hstep
      have hclose : (Balance.within 1 {}).step ')' = some {} := rfl
      simp only [hclose, Balance.isOuter]
      constructor
      · intro h
        have hnil : cs = [] := by simpa using h
        exact ⟨[], by rw [hnil]; rfl, rfl⟩
      · rintro ⟨body, hbody, hscan⟩
        cases body with
        | nil => simpa using hbody
        | cons d body =>
          obtain ⟨rfl, _⟩ := List.cons.inj hbody
          rw [Balance.scan, hstep] at hscan
          cases hscan
    | some next =>
      rw [Balance.step_within 1 hstep]
      have hinner : ¬ (c = ')' ∧ (next.within 1).isOuter = true) := by
        simp [Balance.isOuter, Balance.within]
      simp only [if_neg hinner]
      rw [ih]
      constructor
      · rintro ⟨body, rfl, hscan⟩
        exact ⟨c :: body, rfl, by rw [Balance.scan, hstep]; exact hscan⟩
      · rintro ⟨body, hbody, hscan⟩
        cases body with
        | nil =>
          obtain ⟨rfl, _⟩ := List.cons.inj hbody
          obtain rfl := Option.some.inj hscan
          cases hstep
        | cons d body =>
          obtain ⟨rfl, rfl⟩ := List.cons.inj hbody
          rw [Balance.scan, hstep] at hscan
          exact ⟨body, rfl, hscan⟩

/-- One pair of parentheses wraps an expression exactly when what is between them is balanced. -/
theorem isWrapped_iff {cs : List Char} :
    isWrapped cs = true ↔ ∃ body, cs = '(' :: (body ++ [')']) ∧ isBalanced body = true := by
  unfold isWrapped
  cases cs with
  | nil => simp
  | cons c cs =>
    rw [Bool.and_eq_true, List.head?_cons, beq_iff_eq, Option.some.injEq]
    constructor
    · rintro ⟨rfl, h⟩
      obtain ⟨body, rfl, hscan⟩ := (closesAtEnd_within_iff (b := {})).1 h
      exact ⟨body, rfl, isBalanced_iff.2 hscan⟩
    · rintro ⟨body, hbody, hbalanced⟩
      obtain ⟨rfl, rfl⟩ := List.cons.inj hbody
      exact ⟨rfl, (closesAtEnd_within_iff (b := {})).2 ⟨body, rfl, isBalanced_iff.1 hbalanced⟩⟩

theorem inner_between (body : List Char) : inner ('(' :: (body ++ [')'])) = body := by
  simp [inner]

theorem length_inner_of_isWrapped {cs : List Char} (h : isWrapped cs = true) :
    (strip (inner cs)).length + 2 ≤ cs.length := by
  obtain ⟨body, rfl, _⟩ := isWrapped_iff.1 h
  have hle := length_strip_le body
  rw [inner_between, List.length_cons, List.length_append, List.length_singleton]
  omega

/-! ## Taking pairs away -/

theorem unwrap_of_isWrapped {cs : List Char} (h : isWrapped cs = true) (n : Nat) :
    unwrap (n + 1) cs = unwrap n (strip (inner cs)) := by
  rw [unwrap, if_pos h]

theorem unwrap_of_not_isWrapped {cs : List Char} (h : isWrapped cs = false) (n : Nat) :
    unwrap n cs = cs := by
  cases n with
  | zero => rfl
  | succ n => rw [unwrap, if_neg (by simp [h])]

/-- With as many pairs allowed as there are characters, no pair is left. -/
theorem isWrapped_unwrap {n : Nat} {cs : List Char} (h : cs.length ≤ n) :
    isWrapped (unwrap n cs) = false := by
  induction n generalizing cs with
  | zero =>
    obtain rfl := List.eq_nil_of_length_eq_zero (Nat.le_zero.1 h)
    rfl
  | succ n ih =>
    cases hwrapped : isWrapped cs with
    | true =>
      have hlength := length_inner_of_isWrapped hwrapped
      rw [unwrap_of_isWrapped hwrapped]
      exact ih (by omega)
    | false => rw [unwrap_of_not_isWrapped hwrapped, hwrapped]

theorem isTrimmed_unwrap {cs : List Char} (h : IsTrimmed cs) (n : Nat) :
    IsTrimmed (unwrap n cs) := by
  induction n generalizing cs with
  | zero => exact h
  | succ n ih =>
    rw [unwrap]
    split
    · exact ih (isTrimmed_strip _)
    · exact h

/-- How many pairs are allowed does not matter once there are enough. -/
theorem unwrap_eq_unwrap {m n : Nat} {cs : List Char} (hm : cs.length ≤ m) (hn : cs.length ≤ n) :
    unwrap m cs = unwrap n cs := by
  induction m generalizing n cs with
  | zero =>
    obtain rfl := List.eq_nil_of_length_eq_zero (Nat.le_zero.1 hm)
    rw [unwrap_of_not_isWrapped rfl, unwrap_of_not_isWrapped rfl]
  | succ m ih =>
    cases hwrapped : isWrapped cs with
    | true =>
      have hlength := length_inner_of_isWrapped hwrapped
      obtain ⟨k, rfl⟩ : ∃ k, n = k + 1 := ⟨n - 1, by omega⟩
      rw [unwrap_of_isWrapped hwrapped, unwrap_of_isWrapped hwrapped]
      exact ih (by omega) (by omega)
    | false => rw [unwrap_of_not_isWrapped hwrapped, unwrap_of_not_isWrapped hwrapped]

/-! ## Expressions without outer parentheses -/

theorem isTrimmed_stripParensOf (cs : List Char) : IsTrimmed (stripParensOf cs) :=
  isTrimmed_unwrap (isTrimmed_strip cs) _

theorem isWrapped_stripParensOf (cs : List Char) : isWrapped (stripParensOf cs) = false :=
  isWrapped_unwrap (length_strip_le cs)

/-- A trimmed expression that is not wrapped is left alone. -/
theorem stripParensOf_eq_self {cs : List Char} (htrimmed : IsTrimmed cs)
    (h : isWrapped cs = false) : stripParensOf cs = cs := by
  rw [stripParensOf, htrimmed.strip_eq, unwrap_of_not_isWrapped h]

theorem stripParensOf_stripParensOf (cs : List Char) :
    stripParensOf (stripParensOf cs) = stripParensOf cs :=
  stripParensOf_eq_self (isTrimmed_stripParensOf cs) (isWrapped_stripParensOf cs)

/-- Blanks around an expression do not matter. -/
theorem stripParensOf_strip (cs : List Char) : stripParensOf (strip cs) = stripParensOf cs := by
  rw [stripParensOf, strip_strip]
  exact unwrap_eq_unwrap (Nat.le_refl _) (length_strip_le cs)

/-- Nor does a pair of parentheses around it. -/
theorem stripParensOf_between {body : List Char} (h : isBalanced body = true) :
    stripParensOf ('(' :: (body ++ [')'])) = stripParensOf body := by
  have hwrapped : isWrapped ('(' :: (body ++ [')'])) = true := isWrapped_iff.2 ⟨body, rfl, h⟩
  have htrimmed : IsTrimmed ('(' :: (body ++ [')'])) := by
    constructor
    · intro c hc
      obtain rfl := Option.some.inj hc
      decide
    · intro c hc
      have hlast : ('(' :: (body ++ [')'])).getLast? = some ')' := by simp [List.getLast?_cons]
      obtain rfl := Option.some.inj (hlast.symm.trans hc)
      decide
  have hle := length_strip_le body
  have hlength : ('(' :: (body ++ [')'])).length = body.length + 1 + 1 := by simp
  rw [stripParensOf, htrimmed.strip_eq, hlength, unwrap_of_isWrapped hwrapped, inner_between]
  exact unwrap_eq_unwrap (by omega) hle

end SchemaCodegen.ServerDefault
