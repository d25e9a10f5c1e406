import SchemaCodegen.Proofs.ServerDefault.Balance
import SchemaCodegen.Proofs.Text.Run
import SchemaCodegen.ServerDefault.Typecast

/-!
# Proofs: where a cast is looked for

The search for the last pair of colons reads a run of colons from the left, two at a time. So the
pair that it tells is the last one of a balanced expression, with a balanced text on either side and
an even number of colons right before it. In a balanced expression there is such a pair as soon as
there is any outside literals and parentheses.
-/

namespace SchemaCodegen.ServerDefault

open SchemaCodegen.Text

/-! ## Colons at the end -/

/-- How many colons stand at the end of a text, one beside another. -/
def colonsAtEnd (cs : List Char) : Nat :=
  (cs.rtakeWhile (· == ':')).length

/-- A character in front does not count, unless it is a colon with nothing but colons behind it. -/
theorem colonsAtEnd_cons {c : Char} {cs : List Char} (h : c = ':' → ∃ d ∈ cs, d ≠ ':') :
    colonsAtEnd (c :: cs) = colonsAtEnd cs :=
  runAtEnd_cons h

/-- Two more colons in front do not change whether the number is even. -/
theorem even_colonsAtEnd_pair {cs : List Char} :
    Even (colonsAtEnd (':' :: ':' :: cs)) ↔ Even (colonsAtEnd cs) :=
  even_runAtEnd_pair

/-! ## Pairs of colons -/

/-- There is a pair of colons outside literals and parentheses, for a scan that begins with the
given balance. -/
def HasPairFrom (b : Balance) (cs : List Char) : Prop :=
  ∃ front back, cs = front ++ ':' :: ':' :: back ∧ b.scan front = some {}

/-- Whether a text begins with such a pair. -/
def BeginsPair (b : Balance) (cs : List Char) : Prop :=
  b = {} ∧ [':', ':'] <+: cs

/-- A text can be read in pairs of colons outside literals and parentheses and in single
characters at which no such pair begins. -/
theorem induction_on_pairs {motive : Balance → List Char → Prop} (nil : ∀ b, motive b [])
    (pair : ∀ cs, motive {} cs → motive {} (':' :: ':' :: cs))
    (cons : ∀ b c cs, ¬BeginsPair b (c :: cs) → (∀ next, b.step c = some next → motive next cs) →
      motive b (c :: cs)) (b : Balance) (cs : List Char) : motive b cs := by
  induction hn : cs.length using Nat.strong_induction_on generalizing b cs with
  | _ n ih =>
    subst hn
    cases cs with
    | nil => exact nil b
    | cons c cs =>
      by_cases hpair : BeginsPair b (c :: cs)
      · obtain ⟨rfl, rest, hrest⟩ := hpair
        rw [← hrest] at ih ⊢
        have hshorter : rest.length < (':' :: ':' :: rest).length := by
          rw [List.length_cons, List.length_cons]
          omega
        exact pair rest (ih rest.length hshorter {} rest rfl)
      · exact cons b c cs hpair fun next _ => ih cs.length (by simp) next cs rfl

theorem not_hasPairFrom_nil (b : Balance) : ¬HasPairFrom b [] := by
  rintro ⟨front, back, hsplit, _⟩
  simp at hsplit

theorem hasPairFrom_pair (cs : List Char) : HasPairFrom {} (':' :: ':' :: cs) :=
  ⟨[], cs, rfl, rfl⟩

/-- A pair that a text does not begin with stands behind its first character. -/
theorem hasPairFrom_cons {b : Balance} {c : Char} {cs : List Char}
    (h : ¬BeginsPair b (c :: cs)) :
    HasPairFrom b (c :: cs) ↔ ∃ next, b.step c = some next ∧ HasPairFrom next cs := by
  constructor
  · rintro ⟨front, back, hsplit, hfront⟩
    cases front with
    | nil =>
      obtain rfl := Option.some.inj hfront
      exact absurd ⟨rfl, back, hsplit.symm⟩ h
    | cons d front =>
      obtain ⟨rfl, rfl⟩ := List.cons.inj hsplit
      obtain ⟨next, hstep, hfront⟩ := Balance.scan_cons_eq_some_iff.1 hfront
      exact ⟨next, hstep, front, back, rfl, hfront⟩
  · rintro ⟨next, hstep, front, back, rfl, hfront⟩
    exact ⟨c :: front, back, rfl, Balance.scan_cons_eq_some_iff.2 ⟨next, hstep, hfront⟩⟩

/-! ## The last pair -/

/-- The text is cut at its last pair of colons, for a scan that begins with the given balance. -/
structure SplitsFrom (b : Balance) (cs front back : List Char) : Prop where
  /-- The pair stands between the two parts. -/
  split : cs = front ++ ':' :: ':' :: back
  /-- The front closes what is open. -/
  scan_front : b.scan front = some {}
  /-- The back closes what it opens. -/
  scan_back : Balance.scan {} back = some {}
  /-- No other pair follows. -/
  last : ¬HasPairFrom {} back
  /-- The colons right before the pair are pairs themselves. -/
  even : Even (colonsAtEnd front)

theorem not_splitsFrom_nil {b : Balance} {front back : List Char} : ¬SplitsFrom b [] front back :=
  fun h => not_hasPairFrom_nil b ⟨front, back, h.split, h.scan_front⟩

/-- The last pair is the one at the beginning if there is no other one, or that of the rest. -/
theorem splitsFrom_pair_iff {cs front back : List Char} :
    SplitsFrom {} (':' :: ':' :: cs) front back ↔
      (front = [] ∧ back = cs ∧ Balance.scan {} cs = some {} ∧ ¬HasPairFrom {} cs) ∨
        ∃ rest, front = ':' :: ':' :: rest ∧ SplitsFrom {} cs rest back := by
  constructor
  · intro h
    obtain ⟨hsplit, hfront, hback, hlast, heven⟩ := h
    cases front with
    | nil =>
      obtain ⟨-, htail⟩ := List.cons.inj hsplit
      obtain ⟨-, rfl⟩ := List.cons.inj htail
      exact Or.inl ⟨rfl, rfl, hback, hlast⟩
    | cons c front =>
      obtain ⟨rfl, htail⟩ := List.cons.inj hsplit
      cases front with
      | nil => exact absurd heven (by decide)
      | cons d front =>
        obtain ⟨rfl, rfl⟩ := List.cons.inj htail
        exact Or.inr ⟨front, rfl, rfl, hfront, hback, hlast, even_colonsAtEnd_pair.1 heven⟩
  · rintro (⟨rfl, rfl, hback, hlast⟩ | ⟨rest, rfl, h⟩)
    · exact ⟨rfl, rfl, hback, hlast, by decide⟩
    · obtain ⟨rfl, hfront, hback, hlast, heven⟩ := h
      exact ⟨rfl, hfront, hback, hlast, even_colonsAtEnd_pair.2 heven⟩

/-- A character at which no pair begins is no part of the colons before a pair behind it. -/
theorem colonsAtEnd_cons_of_scan {b next : Balance} {c : Char} {front back : List Char}
    (h : ¬BeginsPair b (c :: (front ++ ':' :: ':' :: back))) (hstep : b.step c = some next)
    (hscan : next.scan front = some {}) : colonsAtEnd (c :: front) = colonsAtEnd front := by
  refine colonsAtEnd_cons fun hc => ?_
  by_contra hall
  push Not at hall
  subst hc
  -- colons change nothing, so the first one stands outside already
  rw [Balance.step_other (by decide) (by decide) (by decide)] at hstep
  obtain rfl := Option.some.inj hstep
  have hself : b.scan front = some b := Balance.scan_of_forall fun d hd => by
    rw [hall d hd]
    decide
  obtain rfl := Option.some.inj (hself.symm.trans hscan)
  refine h ⟨rfl, ?_⟩
  cases front with
  | nil => exact ⟨_, rfl⟩
  | cons d front =>
    obtain rfl := hall d (List.mem_cons_self ..)
    exact ⟨_, rfl⟩

/-- Where no pair begins a text, its last pair is that of the rest. -/
theorem splitsFrom_cons_iff {b : Balance} {c : Char} {cs front back : List Char}
    (h : ¬BeginsPair b (c :: cs)) :
    SplitsFrom b (c :: cs) front back ↔
      ∃ next rest, b.step c = some next ∧ front = c :: rest ∧ SplitsFrom next cs rest back := by
  constructor
  · rintro ⟨hsplit, hfront, hback, hlast, heven⟩
    cases front with
    | nil =>
      obtain rfl := Option.some.inj hfront
      exact absurd ⟨rfl, back, hsplit.symm⟩ h
    | cons d front =>
      obtain ⟨rfl, rfl⟩ := List.cons.inj hsplit
      obtain ⟨next, hstep, hfront⟩ := Balance.scan_cons_eq_some_iff.1 hfront
      rw [colonsAtEnd_cons_of_scan h hstep hfront] at heven
      exact ⟨next, front, hstep, rfl, rfl, hfront, hback, hlast, heven⟩
  · rintro ⟨next, rest, hstep, rfl, rfl, hfront, hback, hlast, heven⟩
    refine ⟨rfl, Balance.scan_cons_eq_some_iff.2 ⟨next, hstep, hfront⟩, hback, hlast, ?_⟩
    rwa [colonsAtEnd_cons_of_scan h hstep hfront]

/-! ## The search -/

/-- A pair of colons outside literals and parentheses is what a search has found, until it finds
another one. -/
theorem castFrom_pair (position : Nat) (found : Option Nat) (cs : List Char) :
    castFrom false {} position found (':' :: ':' :: cs) =
      castFrom false {} (position + 2) (some position) cs := by
  simp [castFrom, Balance.isOuter]

/-- Any other character moves the search on. -/
theorem castFrom_cons {b : Balance} {c : Char} {cs : List Char} (h : ¬BeginsPair b (c :: cs))
    (position : Nat) (found : Option Nat) :
    castFrom false b position found (c :: cs) =
      (b.step c).bind fun next => castFrom false next (position + 1) found cs := by
  have hpair : ¬(c = ':' ∧ b.isOuter = true ∧ cs.head? = some ':') := by
    rintro ⟨rfl, hb, hhead⟩
    obtain ⟨rest, rfl⟩ := List.head?_eq_some_iff.1 hhead
    exact h ⟨Balance.eq_of_isOuter hb, rest, rfl⟩
  rw [castFrom, if_neg hpair]
  cases b.step c with
  | none => rfl
  | some next => rfl

theorem castFrom_nil_eq_some_iff {b : Balance} {position p : Nat} {found : Option Nat} :
    castFrom false b position found [] = some p ↔ b.scan [] = some {} ∧ found = some p := by
  rw [castFrom, Balance.scan]
  split
  · next hb => simp [Balance.eq_of_isOuter hb]
  · next hb =>
    have hne : b ≠ {} := by
      rintro rfl
      exact hb rfl
    simp [hne]

/-- A search tells the last pair of a text that closes what is open, or the pair that was found
before if such a text has none. -/
theorem castFrom_eq_some_iff {b : Balance} {position p : Nat} {found : Option Nat}
    {cs : List Char} :
    castFrom false b position found cs = some p ↔
      (found = some p ∧ b.scan cs = some {} ∧ ¬HasPairFrom b cs) ∨
        ∃ front back, SplitsFrom b cs front back ∧ p = position + front.length := by
  induction b, cs using induction_on_pairs generalizing position found with
  | nil b =>
    rw [castFrom_nil_eq_some_iff]
    simp [not_hasPairFrom_nil, not_splitsFrom_nil, and_comm]
  | pair cs ih =>
    rw [castFrom_pair, ih]
    constructor
    · rintro (⟨hfound, hscan, hlast⟩ | ⟨front, back, hcut, rfl⟩)
      · obtain rfl := Option.some.inj hfound
        exact Or.inr ⟨[], cs, splitsFrom_pair_iff.2 (Or.inl ⟨rfl, rfl, hscan, hlast⟩), rfl⟩
      · refine Or.inr ⟨_, back, splitsFrom_pair_iff.2 (Or.inr ⟨front, rfl, hcut⟩), ?_⟩
        rw [List.length_cons, List.length_cons]
        omega
    · rintro (⟨_, _, hnone⟩ | ⟨front, back, hcut, rfl⟩)
      · exact absurd (hasPairFrom_pair cs) hnone
      · rcases splitsFrom_pair_iff.1 hcut with ⟨rfl, rfl, hscan, hlast⟩ | ⟨rest, rfl, hrest⟩
        · exact Or.inl ⟨rfl, hscan, hlast⟩
        · refine Or.inr ⟨rest, back, hrest, ?_⟩
          rw [List.length_cons, List.length_cons]
          omega
  | cons b c cs hpair ih =>
    rw [castFrom_cons hpair, Option.bind_eq_some_iff, hasPairFrom_cons hpair,
      Balance.scan_cons_eq_some_iff]
    constructor
    · rintro ⟨next, hstep, h⟩
      rcases (ih next hstep).1 h with ⟨hfound, hscan, hnone⟩ | ⟨front, back, hcut, rfl⟩
      · refine Or.inl ⟨hfound, ⟨next, hstep, hscan⟩, ?_⟩
        rintro ⟨other, hother, hhas⟩
        obtain rfl := Option.some.inj (hstep.symm.trans hother)
        exact hnone hhas
      · refine Or.inr ⟨_, back, (splitsFrom_cons_iff hpair).2 ⟨next, front, hstep, rfl, hcut⟩, ?_⟩
        rw [List.length_cons]
        omega
    · rintro (⟨hfound, ⟨next, hstep, hscan⟩, hnone⟩ | ⟨front, back, hcut, rfl⟩)
      · exact ⟨next, hstep, (ih next hstep).2
          (Or.inl ⟨hfound, hscan, fun hhas => hnone ⟨next, hstep, hhas⟩⟩)⟩
      · obtain ⟨next, rest, hstep, rfl, hrest⟩ := (splitsFrom_cons_iff hpair).1 hcut
        refine ⟨next, hstep, (ih next hstep).2 (Or.inr ⟨rest, back, hrest, ?_⟩)⟩
        rw [List.length_cons]
        omega

/-- Where a text that closes what is open has a pair, it has a last one. -/
theorem exists_splitsFrom {b : Balance} {cs : List Char} (hscan : b.scan cs = some {})
    (h : HasPairFrom b cs) : ∃ front back, SplitsFrom b cs front back := by
  induction b, cs using induction_on_pairs with
  | nil b => exact absurd h (not_hasPairFrom_nil b)
  | pair cs ih =>
    by_cases hrest : HasPairFrom {} cs
    · obtain ⟨front, back, hcut⟩ := ih hscan hrest
      exact ⟨_, back, splitsFrom_pair_iff.2 (Or.inr ⟨front, rfl, hcut⟩)⟩
    · exact ⟨[], cs, splitsFrom_pair_iff.2 (Or.inl ⟨rfl, rfl, hscan, hrest⟩)⟩
  | cons b c cs hpair ih =>
    obtain ⟨next, hstep, hhas⟩ := (hasPairFrom_cons hpair).1 h
    rw [Balance.scan, hstep] at hscan
    obtain ⟨front, back, hcut⟩ := ih next hstep hscan hhas
    exact ⟨_, back, (splitsFrom_cons_iff hpair).2 ⟨next, front, hstep, rfl, hcut⟩⟩

/-! ## Balanced expressions -/

/-- The expression has a pair of colons outside literals and parentheses. -/
def HasOuterPair (cs : List Char) : Prop :=
  ∃ front back, cs = front ++ ':' :: ':' :: back ∧ isBalanced front = true

/-- The expression is cut at its last pair of colons outside literals and parentheses. -/
structure SplitsAtCast (cs front back : List Char) : Prop where
  /-- The pair stands between the two parts. -/
  split : cs = front ++ ':' :: ':' :: back
  /-- The front is balanced. -/
  isBalanced_front : isBalanced front = true
  /-- The back is balanced. -/
  isBalanced_back : isBalanced back = true
  /-- No other pair follows. -/
  last : ¬HasOuterPair back
  /-- The colons right before the pair are pairs themselves. -/
  even : Even (colonsAtEnd front)

theorem hasPairFrom_iff {cs : List Char} : HasPairFrom {} cs ↔ HasOuterPair cs := by
  simp only [HasPairFrom, HasOuterPair, isBalanced_iff]

theorem splitsFrom_iff {cs front back : List Char} :
    SplitsFrom {} cs front back ↔ SplitsAtCast cs front back := by
  constructor
  · rintro ⟨hsplit, hfront, hback, hlast, heven⟩
    exact ⟨hsplit, isBalanced_iff.2 hfront, isBalanced_iff.2 hback, hasPairFrom_iff.not.1 hlast,
      heven⟩
  · rintro ⟨hsplit, hfront, hback, hlast, heven⟩
    exact ⟨hsplit, isBalanced_iff.1 hfront, isBalanced_iff.1 hback, hasPairFrom_iff.not.2 hlast,
      heven⟩

/-- The search tells a position exactly if the expression is cut there. -/
theorem castPosition?_eq_some_iff {cs : List Char} {p : Nat} :
    castPosition? cs = some p ↔ ∃ front back, SplitsAtCast cs front back ∧ front.length = p := by
  unfold castPosition?
  simp only [castFrom_eq_some_iff, reduceCtorEq, false_and, false_or, Nat.zero_add, splitsFrom_iff,
    eq_comm (a := p)]

/-- An expression can be cut exactly if it is balanced and has a pair. -/
theorem exists_splitsAtCast_iff {cs : List Char} :
    (∃ front back, SplitsAtCast cs front back) ↔ isBalanced cs = true ∧ HasOuterPair cs := by
  constructor
  · rintro ⟨front, back, hsplit, hfront, hback, _⟩
    have hcolons : isBalanced [':', ':'] = true := rfl
    refine ⟨?_, front, back, hsplit, hfront⟩
    rw [hsplit, isBalanced_append hfront]
    exact (isBalanced_append hcolons).trans hback
  · rintro ⟨hbalanced, hpair⟩
    obtain ⟨front, back, hcut⟩ :=
      exists_splitsFrom (isBalanced_iff.1 hbalanced) (hasPairFrom_iff.2 hpair)
    exact ⟨front, back, splitsFrom_iff.1 hcut⟩

theorem castPosition?_eq_none_iff {cs : List Char} :
    castPosition? cs = none ↔ ¬∃ front back, SplitsAtCast cs front back := by
  rw [Option.eq_none_iff_forall_ne_some]
  constructor
  · rintro h ⟨front, back, hcut⟩
    exact h _ (castPosition?_eq_some_iff.2 ⟨front, back, hcut, rfl⟩)
  · intro h p hp
    obtain ⟨front, back, hcut, _⟩ := castPosition?_eq_some_iff.1 hp
    exact h ⟨front, back, hcut⟩

/-- The search for a cast finds the last one, and says when there is none. -/
structure FindsLastCast (cs : List Char) : Prop where
  /-- It tells a position exactly if the expression is cut there. -/
  some_iff : ∀ p, castPosition? cs = some p ↔
    ∃ front back, SplitsAtCast cs front back ∧ front.length = p
  /-- It tells none exactly if the expression cannot be cut. -/
  none_iff : castPosition? cs = none ↔ ¬∃ front back, SplitsAtCast cs front back
  /-- Then the expression is not balanced or has no pair, and only then. -/
  cannot_iff : (¬∃ front back, SplitsAtCast cs front back) ↔
    isBalanced cs = false ∨ ¬HasOuterPair cs

theorem findsLastCast_castPosition (cs : List Char) : FindsLastCast cs where
  some_iff _ := castPosition?_eq_some_iff
  none_iff := castPosition?_eq_none_iff
  cannot_iff := by
    rw [exists_splitsAtCast_iff, Classical.not_and_iff_not_or_not, Bool.not_eq_true]

end SchemaCodegen.ServerDefault
