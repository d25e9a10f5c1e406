import SchemaCodegen.Proofs.Text.Trim
import SchemaCodegen.ServerDefault.Balance

/-!
# Proofs: balanced expressions

What a scan makes of an expression does not depend on how many parentheses are open around it. So a
balanced expression changes nothing about what is in front of it, behind it or around it. Nor do
blanks, at either end of an expression.
-/

namespace SchemaCodegen.ServerDefault

open SchemaCodegen.Text

namespace Balance

theorem eq_of_isOuter {b : Balance} (h : b.isOuter = true) : b = {} := by
  obtain ⟨quoted, depth⟩ := b
  simp only [isOuter, Bool.and_eq_true, Bool.not_eq_true', beq_iff_eq] at h
  rw [h.1, h.2]

/-! ## Single characters -/

/-- Inside a literal nothing but a quote counts. -/
theorem step_quoted {c : Char} (hc : c ≠ '\'') (depth : Nat) :
    step ⟨true, depth⟩ c = some ⟨true, depth⟩ := by
  simp [step, hc]

theorem step_open (depth : Nat) : step ⟨false, depth⟩ '(' = some ⟨false, depth + 1⟩ :=
  rfl

theorem step_close (depth : Nat) : step ⟨false, depth + 1⟩ ')' = some ⟨false, depth⟩ :=
  rfl

/-- All other characters leave the balance alone. -/
theorem step_other {c : Char} (hquote : c ≠ '\'') (hopen : c ≠ '(') (hclose : c ≠ ')')
    (b : Balance) : b.step c = some b := by
  simp [step, hquote, hopen, hclose]

/-- Only a parenthesis that closes where none is open cannot be scanned. -/
theorem step_eq_none_iff {b : Balance} {c : Char} : b.step c = none ↔ c = ')' ∧ b = {} := by
  constructor
  · intro h
    obtain ⟨quoted, depth⟩ := b
    have hquote : c ≠ '\'' := by
      rintro rfl
      cases h
    cases quoted with
    | true =>
      rw [step_quoted hquote] at h
      cases h
    | false =>
      have hopen : c ≠ '(' := by
        rintro rfl
        cases h
      by_cases hclose : c = ')'
      · subst hclose
        cases depth with
        | zero => exact ⟨rfl, rfl⟩
        | succ depth => cases h
      · rw [step_other hquote hopen hclose] at h
        cases h
  · rintro ⟨rfl, rfl⟩
    rfl

/-! ## Deeper inside parentheses -/

/-- The balance with more parentheses open around it. -/
def within (k : Nat) (b : Balance) : Balance :=
  { b with depth := b.depth + k }

/-- A character that can be scanned can be scanned deeper inside parentheses, with the same
effect. -/
theorem step_within (k : Nat) {b next : Balance} {c : Char} (h : b.step c = some next) :
    (b.within k).step c = some (next.within k) := by
  obtain ⟨quoted, depth⟩ := b
  by_cases hquote : c = '\''
  · subst hquote
    obtain rfl := Option.some.inj h
    rfl
  cases quoted with
  | true =>
    rw [step_quoted hquote] at h
    obtain rfl := Option.some.inj h
    exact step_quoted hquote _
  | false =>
    by_cases hopen : c = '('
    · subst hopen
      obtain rfl := Option.some.inj h
      rw [within, step_open, within, Nat.add_right_comm]
    by_cases hclose : c = ')'
    · subst hclose
      cases depth with
      | zero => cases h
      | succ depth =>
        obtain rfl := Option.some.inj h
        rw [within, Nat.add_right_comm, step_close, within]
    rw [step_other hquote hopen hclose] at h
    obtain rfl := Option.some.inj h
    exact step_other hquote hopen hclose _

theorem scan_within (k : Nat) {b last : Balance} {cs : List Char} (h : b.scan cs = some last) :
    (b.within k).scan cs = some (last.within k) := by
  induction cs generalizing b with
  | nil =>
    obtain rfl := Option.some.inj h
    rfl
  | cons c cs ih =>
    rw [scan] at h ⊢
    cases hstep : b.step c with
    | none => simp [hstep] at h
    | some next =>
      rw [hstep] at h
      rw [step_within k hstep]
      exact ih h

theorem scan_cons_eq_some_iff {b last : Balance} {c : Char} {cs : List Char} :
    b.scan (c :: cs) = some last ↔ ∃ next, b.step c = some next ∧ next.scan cs = some last := by
  rw [scan]
  cases b.step c with
  | none => simp
  | some next => simp

/-- Only quotes and parentheses count. -/
theorem scan_of_forall {b : Balance} {cs : List Char}
    (h : ∀ c ∈ cs, c ≠ '\'' ∧ c ≠ '(' ∧ c ≠ ')') : b.scan cs = some b := by
  induction cs with
  | nil => rfl
  | cons c cs ih =>
    obtain ⟨⟨hquote, hopen, hclose⟩, h⟩ := List.forall_mem_cons.1 h
    rw [scan, step_other hquote hopen hclose]
    exact ih h

end Balance

/-- An expression is balanced exactly when a scan of it ends as it began. -/
theorem isBalanced_iff {cs : List Char} : isBalanced cs = true ↔ Balance.scan {} cs = some {} := by
  unfold isBalanced
  cases h : Balance.scan {} cs with
  | none => simp
  | some b =>
    obtain ⟨quoted, depth⟩ := b
    simp [Balance.isOuter]

/-- A balanced expression in front changes nothing. -/
theorem isBalanced_append {front back : List Char} (h : isBalanced front = true) :
    isBalanced (front ++ back) = isBalanced back := by
  rw [isBalanced_iff] at h
  unfold isBalanced
  rw [Balance.scan_append, h]
  rfl

theorem isBalanced_of_forall {cs : List Char} (h : ∀ c ∈ cs, c ≠ '\'' ∧ c ≠ '(' ∧ c ≠ ')') :
    isBalanced cs = true :=
  isBalanced_iff.2 (Balance.scan_of_forall h)

/-- Behind an expression only quotes and parentheses count. -/
theorem isBalanced_append_of_forall (front : List Char) {back : List Char}
    (h : ∀ c ∈ back, c ≠ '\'' ∧ c ≠ '(' ∧ c ≠ ')') :
    isBalanced (front ++ back) = isBalanced front := by
  unfold isBalanced
  rw [Balance.scan_append]
  cases Balance.scan {} front with
  | none => rfl
  | some b => rw [Option.bind_some, Balance.scan_of_forall h]

/-! ## Parentheses around an expression -/

/-- A balanced expression between parentheses is balanced. -/
theorem isBalanced_between {cs : List Char} (h : isBalanced cs = true) :
    isBalanced ('(' :: (cs ++ [')'])) = true := by
  rw [isBalanced_iff] at h ⊢
  have hscan : Balance.scan ⟨false, 1⟩ cs = some ⟨false, 1⟩ := Balance.scan_within 1 h
  rw [Balance.scan, Balance.step_open]
  change Balance.scan ⟨false, 1⟩ (cs ++ [')']) = some {}
  rw [Balance.scan_append, hscan]
  rfl

/-- No front of an expression between parentheses is balanced, unless it is empty. -/
theorem eq_nil_of_isBalanced_front {body front back : List Char} (hbody : isBalanced body = true)
    (hfront : isBalanced front = true) (hback : back ≠ [])
    (h : front ++ back = '(' :: (body ++ [')'])) : front = [] := by
  cases front with
  | nil => rfl
  | cons c front =>
    obtain ⟨rfl, htail⟩ := List.cons.inj h
    have hprefix : front <+: body := by
      change front ++ back = body ++ [')'] at htail
      rw [List.append_eq_append_iff] at htail
      rcases htail with ⟨rest, rfl, _⟩ | ⟨rest, rfl, hrest⟩
      · exact List.prefix_append _ _
      · cases rest with
        | nil => simp
        | cons d rest =>
          obtain ⟨_, hnil⟩ := List.cons.inj hrest
          exact absurd (List.append_eq_nil_iff.1 hnil.symm).2 hback
    obtain ⟨rest, rfl⟩ := hprefix
    rw [isBalanced_iff, Balance.scan_append, Option.bind_eq_some_iff] at hbody
    obtain ⟨b, hb, _⟩ := hbody
    -- The parenthesis in front is still open where the front ends.
    have hopen : Balance.scan {} ('(' :: front) = some (b.within 1) := Balance.scan_within 1 hb
    rw [isBalanced_iff, hopen] at hfront
    have hdepth := congrArg Balance.depth (Option.some.inj hfront)
    exact absurd hdepth (Nat.succ_ne_zero b.depth)

/-! ## Blanks -/

theorem not_mark_of_isBlank {c : Char} (h : isBlank c = true) :
    c ≠ '\'' ∧ c ≠ '(' ∧ c ≠ ')' := by
  refine ⟨?_, ?_, ?_⟩ <;> rintro rfl <;> exact absurd h (by decide)

section Blanks

variable {blanks : List Char} (h : ∀ c ∈ blanks, isBlank c = true)

include h

theorem isBalanced_of_isBlank : isBalanced blanks = true :=
  isBalanced_of_forall fun c hc => not_mark_of_isBlank (h c hc)

theorem isBalanced_append_blanks (front : List Char) :
    isBalanced (front ++ blanks) = isBalanced front :=
  isBalanced_append_of_forall front fun c hc => not_mark_of_isBlank (h c hc)

end Blanks

theorem isBalanced_dropWhile_isBlank (cs : List Char) :
    isBalanced (cs.dropWhile isBlank) = isBalanced cs := by
  have hfront : isBalanced (cs.takeWhile isBlank) = true :=
    isBalanced_of_isBlank fun _ => List.mem_takeWhile_imp
  conv_rhs => rw [← cs.takeWhile_append_dropWhile (p := isBlank), isBalanced_append hfront]

theorem isBalanced_stripEnd (cs : List Char) : isBalanced (stripEnd cs) = isBalanced cs := by
  obtain ⟨blanks, hblanks, hsplit⟩ := exists_stripEnd_append cs
  conv_rhs => rw [hsplit]
  exact (isBalanced_append_blanks hblanks _).symm

theorem isBalanced_strip (cs : List Char) : isBalanced (strip cs) = isBalanced cs := by
  rw [strip_eq_stripEnd, isBalanced_stripEnd, isBalanced_dropWhile_isBlank]

end SchemaCodegen.ServerDefault
