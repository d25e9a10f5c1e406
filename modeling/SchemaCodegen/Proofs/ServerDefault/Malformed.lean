import Mathlib.Algebra.Ring.Parity
import SchemaCodegen.Proofs.ServerDefault.Layers
import SchemaCodegen.Proofs.ServerDefault.StrippedCasts
import SchemaCodegen.ServerDefault

/-!
# Proofs: malformed expressions

An expression is malformed when one of its quotes has no partner or, outside literals, one of its
parentheses has none. These are exactly the expressions that a scan does not find balanced, so
neither the search for a cast nor the search for outer parentheses takes anything from them. The two
searches agree on what they accept as well: an expression between parentheses is balanced and has no
cast outside them.
-/

namespace SchemaCodegen.ServerDefault

open SchemaCodegen.Text

/-! ## Partners of quotes and parentheses -/

/-- The characters outside literals, from a place on that may be inside one. -/
def outsideFrom : Bool → List Char → List Char
  | _, [] => []
  | quoted, c :: cs =>
    if c = '\'' then outsideFrom (!quoted) cs
    else if quoted then outsideFrom quoted cs
    else c :: outsideFrom quoted cs

/-- The characters of an expression outside its literals. -/
def outside (cs : List Char) : List Char :=
  outsideFrom false cs

/-- The parentheses of a text all have partners, together with some that are open in front of
it. -/
structure Closes (depth : Nat) (cs : List Char) : Prop where
  /-- No parenthesis closes before one that it can close is open. -/
  never : ∀ front, front <+: cs → front.count ')' ≤ front.count '(' + depth
  /-- At the end every parenthesis is closed. -/
  all : cs.count ')' = cs.count '(' + depth

/-- A quote has no partner, or a parenthesis outside literals has none. -/
def IsMalformed (cs : List Char) : Prop :=
  Odd (cs.count '\'') ∨ ¬Closes 0 (outside cs)

theorem closes_nil_iff {depth : Nat} : Closes depth [] ↔ depth = 0 := by
  constructor
  · intro h
    have hall := h.all
    simp only [List.count_nil] at hall
    omega
  · rintro rfl
    exact ⟨by simp, rfl⟩

theorem closes_cons_iff {depth : Nat} {c : Char} {cs : List Char} :
    Closes depth (c :: cs) ↔
      (∀ front, front <+: cs → (c :: front).count ')' ≤ (c :: front).count '(' + depth) ∧
        (c :: cs).count ')' = (c :: cs).count '(' + depth := by
  constructor
  · rintro ⟨hnever, hall⟩
    exact ⟨fun front h => hnever _ (List.cons_prefix_cons.2 ⟨rfl, h⟩), hall⟩
  · rintro ⟨hnever, hall⟩
    refine ⟨fun front h => ?_, hall⟩
    rcases List.prefix_cons_iff.1 h with rfl | ⟨rest, rfl, hrest⟩
    · simp
    · exact hnever rest hrest

theorem closes_open_iff {depth : Nat} {cs : List Char} :
    Closes depth ('(' :: cs) ↔ Closes (depth + 1) cs := by
  rw [closes_cons_iff]
  simp only [List.count_cons_self, List.count_cons_of_ne (by decide : '(' ≠ ')'), Nat.add_assoc,
    Nat.add_comm 1 depth]
  exact ⟨fun h => ⟨h.1, h.2⟩, fun h => ⟨h.never, h.all⟩⟩

theorem closes_close_iff {depth : Nat} {cs : List Char} :
    Closes (depth + 1) (')' :: cs) ↔ Closes depth cs := by
  rw [closes_cons_iff]
  simp only [List.count_cons_self, List.count_cons_of_ne (by decide : ')' ≠ '('), ← Nat.add_assoc,
    Nat.add_le_add_iff_right, Nat.add_right_cancel_iff]
  exact ⟨fun h => ⟨h.1, h.2⟩, fun h => ⟨h.never, h.all⟩⟩

theorem not_closes_close {cs : List Char} : ¬Closes 0 (')' :: cs) := fun h =>
  absurd (h.never [')'] (List.prefix_append [')'] cs)) (by decide)

theorem closes_other_iff {depth : Nat} {c : Char} {cs : List Char} (hopen : c ≠ '(')
    (hclose : c ≠ ')') : Closes depth (c :: cs) ↔ Closes depth cs := by
  rw [closes_cons_iff]
  simp only [List.count_cons_of_ne hopen, List.count_cons_of_ne hclose]
  exact ⟨fun h => ⟨h.1, h.2⟩, fun h => ⟨h.never, h.all⟩⟩

/-- A scan leaves nothing open exactly if the quotes, with the one that is open, and the parentheses
outside literals, with those that are open, have partners. -/
theorem scan_eq_some_iff {quoted : Bool} {depth : Nat} {cs : List Char} :
    Balance.scan ⟨quoted, depth⟩ cs = some {} ↔
      (Odd (cs.count '\'') ↔ quoted = true) ∧ Closes depth (outsideFrom quoted cs) := by
  induction cs generalizing quoted depth with
  | nil => simp [Balance.scan, outsideFrom, closes_nil_iff]
  | cons c cs ih =>
    rw [Balance.scan]
    by_cases hquote : c = '\''
    · -- The quote changes sides, and so does the parity of those behind it.
      subst hquote
      have hodd : (Odd (cs.count '\'' + 1) ↔ quoted = true) ↔
          (Odd (cs.count '\'') ↔ (!quoted) = true) := by
        rw [Nat.odd_add_one]
        cases quoted <;> simp
      rw [outsideFrom, if_pos rfl, List.count_cons_self, hodd]
      exact ih
    rw [outsideFrom, if_neg hquote, List.count_cons_of_ne hquote]
    cases quoted with
    | true =>
      rw [Balance.step_quoted hquote]
      exact ih
    | false =>
      rw [if_neg Bool.false_ne_true]
      by_cases hopen : c = '('
      · subst hopen
        rw [Balance.step_open, closes_open_iff]
        exact ih
      by_cases hclose : c = ')'
      · subst hclose
        cases depth with
        | zero => simp [Balance.step, not_closes_close]
        | succ depth =>
          rw [Balance.step_close, closes_close_iff]
          exact ih
      rw [Balance.step_other hquote hopen hclose, closes_other_iff hopen hclose]
      exact ih

/-- The malformed expressions are those that are not balanced. -/
theorem isBalanced_eq_false_iff {cs : List Char} : isBalanced cs = false ↔ IsMalformed cs := by
  rw [← Bool.not_eq_true, isBalanced_iff, scan_eq_some_iff, IsMalformed, ← outside]
  simp only [Bool.false_eq_true, iff_false, not_and_or, not_not]

/-! ## Both clean-ups -/

theorem stripCastsOf_of_not_isBalanced {cs : List Char} (h : isBalanced cs = false) :
    stripCastsOf cs = strip cs := by
  refine stripCastsOf_of_not_exists ?_
  rw [exists_splitsAtCast_iff, h]
  simp

theorem stripParensOf_of_not_isBalanced {cs : List Char} (h : isBalanced cs = false) :
    stripParensOf cs = strip cs := by
  have hbalanced : isBalanced (strip cs) = false := (isBalanced_strip cs).trans h
  have hbare : isWrapped (strip cs) = false := by
    rw [← Bool.not_eq_true, isWrapped_iff]
    rintro ⟨body, hsplit, hbody⟩
    rw [hsplit, isBalanced_between hbody] at hbalanced
    cases hbalanced
  rw [stripParensOf, unwrap_of_not_isWrapped hbare]

theorem clean_of_isMalformed {expression : String} (h : IsMalformed expression.toList)
    (dialect : Dialect) : clean expression dialect = stripText expression := by
  have hbalanced := isBalanced_eq_false_iff.2 h
  cases dialect with
  | postgresql => rw [clean, stripCasts, stripCastsOf_of_not_isBalanced hbalanced, stripText]
  | mssql => rw [clean, stripParens, stripParensOf_of_not_isBalanced hbalanced, stripText]

/-- An expression that the search for a cast scans to its end, with nothing left open and no cast on
the way. -/
structure HasNoCast (cs : List Char) : Prop where
  /-- The expression is balanced. -/
  balanced : isBalanced cs = true
  /-- It has no pair of colons outside literals and parentheses. -/
  last : ¬HasOuterPair cs
  /-- The search tells no position. -/
  position : castPosition? cs = none
  /-- A search that has found one before still tells that one, as it would not at the end of an
  expression that is not balanced. -/
  found : ∀ position earlier, castFrom false {} position (some earlier) cs = some earlier

/-- Between parentheses no cast of the expression itself is found. -/
theorem hasNoCast_of_isWrapped {cs : List Char} (h : isWrapped cs = true) : HasNoCast cs := by
  obtain ⟨body, hsplit, hbody⟩ := isWrapped_iff.1 h
  have hbalanced : isBalanced cs = true := by
    rw [hsplit]
    exact isBalanced_between hbody
  have hlast : ¬HasOuterPair cs := by
    rintro ⟨front, back, hpair, hfront⟩
    rw [hpair] at hsplit
    obtain rfl := eq_nil_of_isBalanced_front hbody hfront (by simp) hsplit
    -- A pair of colons does not begin with a parenthesis.
    cases (List.cons.inj hsplit).1
  refine { balanced := hbalanced, last := hlast, position := ?_, found := fun position earlier => ?_ }
  · -- position
    rw [castPosition?_eq_none_iff, exists_splitsAtCast_iff]
    exact fun hcut => hlast hcut.2
  · -- found
    rw [castFrom_eq_some_iff, hasPairFrom_iff]
    exact Or.inl ⟨rfl, isBalanced_iff.1 hbalanced, hlast⟩

/-- A malformed default passes through the clean-up of every dialect with nothing but the blanks
around it removed, and of an expression between parentheses both scans say the same: it is balanced,
and no cast ends it. -/
theorem clean_malformed_and_hasNoCast_wrapped :
    (∀ expression : String, IsMalformed expression.toList →
        ∀ dialect, clean expression dialect = stripText expression) ∧
      ∀ cs, isWrapped cs = true → HasNoCast cs :=
  ⟨fun _ h dialect => clean_of_isMalformed h dialect, fun _ h => hasNoCast_of_isWrapped h⟩

/-- A cast behind a parenthesis that nothing opens is kept, and one between parentheses is not
found. -/
theorem clean_unopened_and_hasNoCast_bracketed :
    clean " (0))::int " .postgresql = "(0))::int" ∧ HasNoCast "(a || '::)'::text)".toList := by
  obtain ⟨hclean, hwrapped⟩ := clean_malformed_and_hasNoCast_wrapped
  have hmalformed : IsMalformed " (0))::int ".toList := isBalanced_eq_false_iff.1 (by decide)
  exact ⟨(hclean _ hmalformed .postgresql).trans (by rfl), hwrapped _ (by decide)⟩

end SchemaCodegen.ServerDefault
