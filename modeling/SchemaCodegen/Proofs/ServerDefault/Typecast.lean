import SchemaCodegen.Proofs.ServerDefault.CastPosition
import SchemaCodegen.Proofs.Text.Trim

/-!
# Proofs: trailing casts

The pair of colons at which an expression is cut has a balanced expression on either side. What is
taken away at the end of an expression is therefore a sequence of casts outside literals and
parentheses, and what is left is a trimmed front of it that has no such cast at its end.
-/

namespace SchemaCodegen.ServerDefault

open SchemaCodegen.Text

/-! ## Casts -/

/-- What a cast can name: characters of type names, with the parentheses among them closed. -/
structure IsTarget (target : List Char) : Prop where
  /-- The characters are those of type names. -/
  isCastTarget : isCastTarget target = true
  /-- The parentheses are closed. -/
  isBalanced : isBalanced target = true

/-- Casts one after another, each with blanks before its colons. -/
inductive IsCasts : List Char → Prop where
  /-- There need be no cast. -/
  | nil : IsCasts []
  /-- A cast behind others. -/
  | snoc {casts blanks target : List Char} (hcasts : IsCasts casts)
      (hblanks : ∀ c ∈ blanks, isBlank c = true) (htarget : IsTarget target) :
      IsCasts (casts ++ blanks ++ ':' :: ':' :: target)

/-- Casts are balanced. -/
theorem IsCasts.isBalanced {casts : List Char} (h : IsCasts casts) : isBalanced casts = true := by
  induction h with
  | nil => rfl
  | @snoc casts blanks target _ hblanks htarget ih =>
    have hcolons : ServerDefault.isBalanced [':', ':'] = true := rfl
    rw [List.append_assoc, isBalanced_append ih, isBalanced_append (isBalanced_of_isBlank hblanks)]
    exact (isBalanced_append hcolons).trans htarget.isBalanced

/-- No cast is without colons. -/
theorem IsCasts.mem_colon {casts : List Char} (h : IsCasts casts) (hne : casts ≠ []) :
    ':' ∈ casts := by
  cases h with
  | nil => exact absurd rfl hne
  | snoc => simp

/-! ## Expressions with casts behind them -/

/-- The second text is the first one with casts behind it, each of them outside literals and
parentheses. -/
inductive FollowedByCasts (rest : List Char) : List Char → Prop where
  /-- There need be no cast. -/
  | nil : FollowedByCasts rest rest
  /-- A cast behind others: blanks, a pair of colons, and a target. -/
  | snoc {front blanks target : List Char} (hfront : FollowedByCasts rest front)
      (hblanks : ∀ c ∈ blanks, isBlank c = true) (houter : isBalanced (front ++ blanks) = true)
      (htarget : IsTarget target) :
      FollowedByCasts rest (front ++ blanks ++ ':' :: ':' :: target)

theorem FollowedByCasts.exists_casts {cs rest : List Char} (h : FollowedByCasts rest cs) :
    ∃ casts, cs = rest ++ casts ∧ IsCasts casts := by
  induction h with
  | nil => exact ⟨[], (List.append_nil rest).symm, .nil⟩
  | @snoc front blanks target _ hblanks _ htarget ih =>
    obtain ⟨casts, rfl, hvalid⟩ := ih
    exact ⟨casts ++ blanks ++ ':' :: ':' :: target, by simp only [List.append_assoc],
      hvalid.snoc hblanks htarget⟩

/-- Casts behind an expression do not change whether it is balanced. -/
theorem FollowedByCasts.isBalanced_eq {cs rest : List Char} (h : FollowedByCasts rest cs) :
    isBalanced rest = isBalanced cs := by
  induction h with
  | nil => rfl
  | @snoc front blanks target _ hblanks houter htarget ih =>
    have hcolons : ServerDefault.isBalanced [':', ':'] = true := rfl
    rw [ih, isBalanced_append houter, ← isBalanced_append_blanks hblanks front, houter]
    exact ((isBalanced_append hcolons).trans htarget.isBalanced).symm

/-! ## Taking casts away -/

/-- The last cast is taken away exactly if its target can be one. -/
theorem dropCast?_of_splitsAtCast {cs front back : List Char} (h : SplitsAtCast cs front back) :
    dropCast? cs = if isCastTarget back = true then some (stripEnd front) else none := by
  have hposition := castPosition?_eq_some_iff.2 ⟨front, back, h, rfl⟩
  have hdrop : (front ++ ':' :: ':' :: back).drop (front.length + 2) = back := by simp
  unfold dropCast?
  rw [hposition]
  obtain rfl := h.split
  simp only [hdrop, List.take_left]

theorem dropCast?_of_not_exists {cs : List Char} (h : ¬∃ front back, SplitsAtCast cs front back) :
    dropCast? cs = none := by
  have hposition : castPosition? cs = none := by
    rw [Option.eq_none_iff_forall_ne_some]
    intro p hp
    obtain ⟨front, back, hcut, _⟩ := castPosition?_eq_some_iff.1 hp
    exact h ⟨front, back, hcut⟩
  rw [dropCast?, hposition]

theorem dropCast?_eq_some_iff {cs shorter : List Char} :
    dropCast? cs = some shorter ↔
      ∃ front back, SplitsAtCast cs front back ∧ isCastTarget back = true ∧
        stripEnd front = shorter := by
  by_cases h : ∃ front back, SplitsAtCast cs front back
  · obtain ⟨front, back, hcut⟩ := h
    constructor
    · intro hsome
      rw [dropCast?_of_splitsAtCast hcut, Option.ite_none_right_eq_some] at hsome
      exact ⟨front, back, hcut, hsome.1, Option.some.inj hsome.2⟩
    · rintro ⟨front, back, hcut, htarget, rfl⟩
      rw [dropCast?_of_splitsAtCast hcut, if_pos htarget]
  · rw [dropCast?_of_not_exists h]
    constructor
    · intro hsome
      cases hsome
    · rintro ⟨front, back, hcut, _⟩
      exact absurd ⟨front, back, hcut⟩ h

/-- No cast is taken away exactly if the last one, where there is one, has another target. -/
theorem dropCast?_eq_none_iff {cs : List Char} :
    dropCast? cs = none ↔ ∀ front back, SplitsAtCast cs front back → isCastTarget back = false := by
  constructor
  · intro hnone front back hcut
    by_contra htarget
    rw [Bool.not_eq_false] at htarget
    rw [dropCast?_of_splitsAtCast hcut, if_pos htarget] at hnone
    cases hnone
  · intro h
    rw [Option.eq_none_iff_forall_ne_some]
    intro shorter hsome
    obtain ⟨front, back, hcut, htarget, _⟩ := dropCast?_eq_some_iff.1 hsome
    rw [h front back hcut] at htarget
    cases htarget

/-- What is left without the last cast has no blank at its end and that cast behind it. -/
theorem of_dropCast? {cs shorter : List Char} (h : dropCast? cs = some shorter) :
    ∃ blanks target, cs = shorter ++ blanks ++ ':' :: ':' :: target ∧
      shorter = stripEnd (shorter ++ blanks) ∧ (∀ c ∈ blanks, isBlank c = true) ∧
      isBalanced (shorter ++ blanks) = true ∧ IsTarget target := by
  obtain ⟨front, target, hcut, htarget, rfl⟩ := dropCast?_eq_some_iff.1 h
  obtain ⟨blanks, hblanks, hfront⟩ := exists_stripEnd_append front
  refine ⟨blanks, target, ?_, ?_, hblanks, ?_, ⟨htarget, hcut.isBalanced_back⟩⟩
  · rw [← hfront]
    exact hcut.split
  · rw [← hfront]
  · rw [← hfront]
    exact hcut.isBalanced_front

theorem length_lt_of_dropCast? {cs shorter : List Char} (h : dropCast? cs = some shorter) :
    shorter.length < cs.length := by
  obtain ⟨blanks, target, rfl, _⟩ := of_dropCast? h
  simp only [List.length_append, List.length_cons]
  omega

theorem dropCasts_of_eq_some {cs shorter : List Char} (h : dropCast? cs = some shorter) (n : Nat) :
    dropCasts (n + 1) cs = dropCasts n shorter := by
  rw [dropCasts, h]

theorem dropCasts_of_eq_none {cs : List Char} (h : dropCast? cs = none) (n : Nat) :
    dropCasts n cs = cs := by
  cases n with
  | zero => rfl
  | succ n => rw [dropCasts, h]

/-- What is taken away is a sequence of casts. -/
theorem followedByCasts_dropCasts (n : Nat) (cs : List Char) :
    FollowedByCasts (dropCasts n cs) cs := by
  induction n generalizing cs with
  | zero => exact .nil
  | succ n ih =>
    cases h : dropCast? cs with
    | none =>
      rw [dropCasts_of_eq_none h]
      exact .nil
    | some shorter =>
      rw [dropCasts_of_eq_some h]
      obtain ⟨blanks, target, rfl, _, hblanks, houter, htarget⟩ := of_dropCast? h
      exact (ih shorter).snoc hblanks houter htarget

theorem isTrimmed_dropCasts {cs : List Char} (h : IsTrimmed cs) (n : Nat) :
    IsTrimmed (dropCasts n cs) := by
  induction n generalizing cs with
  | zero => exact h
  | succ n ih =>
    rw [dropCasts]
    split
    · exact h
    · next shorter hshorter =>
      obtain ⟨blanks, target, rfl, hstrip, _⟩ := of_dropCast? hshorter
      refine ih ?_
      rw [hstrip]
      exact h.stripEnd (List.prefix_append _ _)

/-- With as many casts allowed as there are characters, none is left. -/
theorem dropCast?_dropCasts {n : Nat} {cs : List Char} (h : cs.length ≤ n) :
    dropCast? (dropCasts n cs) = none := by
  induction n generalizing cs with
  | zero =>
    obtain rfl := List.eq_nil_of_length_eq_zero (Nat.le_zero.1 h)
    rfl
  | succ n ih =>
    cases hdrop : dropCast? cs with
    | none => rw [dropCasts_of_eq_none hdrop, hdrop]
    | some shorter =>
      have hlength := length_lt_of_dropCast? hdrop
      rw [dropCasts_of_eq_some hdrop]
      exact ih (by omega)

/-- How many casts are allowed does not matter once there are enough. -/
theorem dropCasts_eq_dropCasts {m n : Nat} {cs : List Char} (hm : cs.length ≤ m)
    (hn : cs.length ≤ n) : dropCasts m cs = dropCasts n cs := by
  induction m generalizing n cs with
  | zero =>
    obtain rfl := List.eq_nil_of_length_eq_zero (Nat.le_zero.1 hm)
    rw [dropCasts_of_eq_none rfl, dropCasts_of_eq_none rfl]
  | succ m ih =>
    cases hdrop : dropCast? cs with
    | none => rw [dropCasts_of_eq_none hdrop, dropCasts_of_eq_none hdrop]
    | some shorter =>
      have hlength := length_lt_of_dropCast? hdrop
      obtain ⟨k, rfl⟩ : ∃ k, n = k + 1 := ⟨n - 1, by omega⟩
      rw [dropCasts_of_eq_some hdrop, dropCasts_of_eq_some hdrop]
      exact ih (by omega) (by omega)

/-! ## Expressions without casts -/

/-- An expression is what is left of it followed by casts, but for blanks around it. -/
theorem exists_casts (cs : List Char) : ∃ casts, strip cs = stripCastsOf cs ++ casts ∧
    IsCasts casts :=
  (followedByCasts_dropCasts _ _).exists_casts

theorem isTrimmed_stripCastsOf (cs : List Char) : IsTrimmed (stripCastsOf cs) :=
  isTrimmed_dropCasts (isTrimmed_strip cs) _

theorem dropCast?_stripCastsOf (cs : List Char) : dropCast? (stripCastsOf cs) = none :=
  dropCast?_dropCasts (length_strip_le cs)

/-- A trimmed expression without casts is left alone. -/
theorem stripCastsOf_eq_self {cs : List Char} (htrimmed : IsTrimmed cs)
    (h : dropCast? cs = none) : stripCastsOf cs = cs := by
  rw [stripCastsOf, htrimmed.strip_eq, dropCasts_of_eq_none h]

end SchemaCodegen.ServerDefault
