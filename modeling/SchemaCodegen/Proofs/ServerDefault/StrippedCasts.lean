import SchemaCodegen.Proofs.ServerDefault.Typecast

/-!
# Proofs: expressions without the casts at their end

What is removed with the blanks around an expression and the casts at its end is nothing that the
rest depends on: no quote is among it, so the literals of the expression stay as they are, and the
rest is balanced exactly if the expression is. Nothing is left to remove a second time.
-/

namespace SchemaCodegen.ServerDefault

open SchemaCodegen.Text

/-! ## Literals -/

/-- The texts of the literals of an expression, from a place on. A literal may be open there, with
the given characters read of it, the last one first. -/
def literalsFrom : Option (List Char) → List Char → List (List Char)
  | _, [] => []
  | none, c :: cs => if c = '\'' then literalsFrom (some []) cs else literalsFrom none cs
  | some read, c :: cs =>
    if c = '\'' then read.reverse :: literalsFrom none cs else literalsFrom (some (c :: read)) cs

/-- The texts of the literals of an expression, in order. A literal that is not closed does not
count. -/
def literalsOf (cs : List Char) : List (List Char) :=
  literalsFrom none cs

theorem literalsFrom_of_not_mem {cs : List Char} (h : '\'' ∉ cs) (opened : Option (List Char)) :
    literalsFrom opened cs = [] := by
  induction cs generalizing opened with
  | nil => rw [literalsFrom]
  | cons c cs ih =>
    have hc : c ≠ '\'' := fun hc => h (hc ▸ List.mem_cons_self ..)
    have hcs : '\'' ∉ cs := fun hcs => h (List.mem_cons_of_mem _ hcs)
    cases opened with
    | none => rw [literalsFrom, if_neg hc, ih hcs]
    | some read => rw [literalsFrom, if_neg hc, ih hcs]

/-- What has no quote in it and comes last belongs to no literal. -/
theorem literalsFrom_append_of_not_mem {back : List Char} (h : '\'' ∉ back)
    (opened : Option (List Char)) (front : List Char) :
    literalsFrom opened (front ++ back) = literalsFrom opened front := by
  induction front generalizing opened with
  | nil => rw [List.nil_append, literalsFrom_of_not_mem h, literalsFrom]
  | cons c front ih =>
    rw [List.cons_append]
    cases opened with
    | none => rw [literalsFrom, literalsFrom, ih, ih]
    | some read => rw [literalsFrom, literalsFrom, ih, ih]

/-- Nor does what has no quote in it and comes first. -/
theorem literalsOf_append_of_not_mem {front : List Char} (h : '\'' ∉ front) (back : List Char) :
    literalsOf (front ++ back) = literalsOf back := by
  induction front with
  | nil => rfl
  | cons c front ih =>
    have hc : c ≠ '\'' := fun hc => h (hc ▸ List.mem_cons_self ..)
    rw [List.cons_append, literalsOf, literalsFrom, if_neg hc]
    exact ih fun hfront => h (List.mem_cons_of_mem _ hfront)

/-! ## Blanks around an expression -/

theorem not_mem_quote_of_isBlank {cs : List Char} (h : ∀ c ∈ cs, isBlank c = true) : '\'' ∉ cs :=
  fun hmem => (not_mark_of_isBlank (h _ hmem)).1 rfl

theorem colonsAtEnd_dropWhile_isBlank (cs : List Char) :
    colonsAtEnd (cs.dropWhile isBlank) = colonsAtEnd cs := by
  induction cs with
  | nil => rfl
  | cons c cs ih =>
    by_cases hblank : isBlank c = true
    · have hc : c ≠ ':' := by
        rintro rfl
        exact absurd hblank (by decide)
      rw [List.dropWhile_cons_of_pos hblank, ih, colonsAtEnd_cons fun he => absurd he hc]
    · rw [List.dropWhile_cons_of_neg hblank]

theorem literalsOf_strip (cs : List Char) : literalsOf (strip cs) = literalsOf cs := by
  obtain ⟨before, after, hbefore, hafter, hsplit⟩ := exists_strip_append cs
  conv_rhs => rw [hsplit]
  rw [literalsOf, literalsOf,
    literalsFrom_append_of_not_mem (not_mem_quote_of_isBlank hafter)]
  exact (literalsOf_append_of_not_mem (not_mem_quote_of_isBlank hbefore) _).symm

theorem count_quote_strip (cs : List Char) : (strip cs).count '\'' = cs.count '\'' := by
  obtain ⟨before, after, hbefore, hafter, hsplit⟩ := exists_strip_append cs
  conv_rhs => rw [hsplit]
  rw [List.count_append, List.count_append,
    List.count_eq_zero_of_not_mem (not_mem_quote_of_isBlank hbefore),
    List.count_eq_zero_of_not_mem (not_mem_quote_of_isBlank hafter), Nat.zero_add, Nat.add_zero]

/-! ## Casts behind an expression -/

/-- No quote belongs to a cast. -/
theorem IsCasts.not_mem_quote {casts : List Char} (h : IsCasts casts) : '\'' ∉ casts := by
  induction h with
  | nil => exact List.not_mem_nil
  | @snoc casts blanks target _ hblanks htarget ih =>
    have hall := List.all_eq_true.1 (Bool.and_eq_true_iff.1 htarget.isCastTarget).2
    intro hmem
    simp only [List.mem_append, List.mem_cons] at hmem
    rcases hmem with (hcasts | hblank) | hcolon | hcolon | htarget
    · exact ih hcasts
    · exact not_mem_quote_of_isBlank hblanks hblank
    · cases hcolon
    · cases hcolon
    · exact absurd (hall _ htarget) (by decide)

/-! ## The last cast -/

/-- A pair of colons stays one with more text behind it. -/
theorem HasOuterPair.of_isPrefix {cs front : List Char} (h : HasOuterPair front)
    (hstart : front <+: cs) : HasOuterPair cs := by
  obtain ⟨rest, rfl⟩ := hstart
  obtain ⟨before, after, rfl, hbefore⟩ := h
  exact ⟨before, after ++ rest, by simp, hbefore⟩

theorem HasOuterPair.of_strip {cs : List Char} (h : HasOuterPair (strip cs)) : HasOuterPair cs := by
  obtain ⟨blanks, rest, hblanks, _, hsplit⟩ := exists_strip_append cs
  obtain ⟨before, after, hpair, hbefore⟩ := h
  have hfront := isBalanced_of_isBlank hblanks
  refine ⟨blanks ++ before, after ++ rest, ?_, (isBalanced_append hfront).trans hbefore⟩
  rw [hsplit, hpair]
  simp

theorem strip_pair (front target : List Char) :
    strip (front ++ ':' :: ':' :: target) =
      front.dropWhile isBlank ++ ':' :: ':' :: stripEnd target := by
  have hcolon : isBlank ':' = false := by decide
  rw [strip_eq_stripEnd, dropWhile_isBlank_append_cons hcolon, stripEnd_append_cons hcolon,
    ← List.nil_append (':' :: target), stripEnd_append_cons hcolon, List.nil_append]

/-- Blanks around an expression do not matter to where it is cut. -/
theorem SplitsAtCast.strip {cs front target : List Char} (h : SplitsAtCast cs front target) :
    SplitsAtCast (strip cs) (front.dropWhile isBlank) (stripEnd target) where
  split := by rw [h.split, strip_pair]
  isBalanced_front := (isBalanced_dropWhile_isBlank front).trans h.isBalanced_front
  isBalanced_back := (isBalanced_stripEnd target).trans h.isBalanced_back
  last := fun hpair => h.last (hpair.of_isPrefix (stripEnd_isPrefix target))
  even := by
    rw [colonsAtEnd_dropWhile_isBlank]
    exact h.even

/-- The last cast of an expression is removed with all casts before it, or nothing is. -/
theorem stripCastsOf_of_splitsAtCast {cs front target : List Char}
    (h : SplitsAtCast cs front target) :
    stripCastsOf cs =
      if isCastTarget (stripEnd target) = true then stripCastsOf front else strip cs := by
  have hdrop := dropCast?_of_splitsAtCast h.strip
  split
  · next htarget =>
    rw [if_pos htarget, ← strip_eq_stripEnd] at hdrop
    have hlength : front.length + 2 ≤ cs.length := by
      rw [h.split, List.length_append, List.length_cons, List.length_cons]
      omega
    obtain ⟨n, hn⟩ : ∃ n, cs.length = n + 1 := ⟨cs.length - 1, by omega⟩
    have hle := length_strip_le front
    rw [stripCastsOf, hn, dropCasts_of_eq_some hdrop]
    exact dropCasts_eq_dropCasts (by omega) hle
  · next htarget =>
    rw [if_neg htarget] at hdrop
    rw [stripCastsOf, dropCasts_of_eq_none hdrop]

theorem stripCastsOf_of_not_exists {cs : List Char}
    (h : ¬∃ front target, SplitsAtCast cs front target) : stripCastsOf cs = strip cs := by
  have hstrip : ¬∃ front target, SplitsAtCast (strip cs) front target := by
    rw [exists_splitsAtCast_iff, isBalanced_strip]
    rintro ⟨hbalanced, hpair⟩
    exact h (exists_splitsAtCast_iff.2 ⟨hbalanced, hpair.of_strip⟩)
  rw [stripCastsOf, dropCasts_of_eq_none (dropCast?_of_not_exists hstrip)]

/-! ## What is left -/

theorem followedByCasts_stripCastsOf (cs : List Char) :
    FollowedByCasts (stripCastsOf cs) (strip cs) :=
  followedByCasts_dropCasts _ _

theorem count_quote_stripCastsOf (cs : List Char) :
    (stripCastsOf cs).count '\'' = cs.count '\'' := by
  obtain ⟨casts, hsplit, hcasts⟩ := exists_casts cs
  rw [← count_quote_strip cs, hsplit, List.count_append,
    List.count_eq_zero_of_not_mem hcasts.not_mem_quote, Nat.add_zero]

theorem literalsOf_stripCastsOf (cs : List Char) : literalsOf (stripCastsOf cs) = literalsOf cs := by
  obtain ⟨casts, hsplit, hcasts⟩ := exists_casts cs
  rw [← literalsOf_strip cs, hsplit]
  exact (literalsFrom_append_of_not_mem hcasts.not_mem_quote none _).symm

theorem isBalanced_stripCastsOf (cs : List Char) : isBalanced (stripCastsOf cs) = isBalanced cs :=
  (followedByCasts_stripCastsOf cs).isBalanced_eq.trans (isBalanced_strip cs)

theorem stripCastsOf_stripCastsOf (cs : List Char) :
    stripCastsOf (stripCastsOf cs) = stripCastsOf cs :=
  stripCastsOf_eq_self (isTrimmed_stripCastsOf cs) (dropCast?_stripCastsOf cs)

theorem toList_stripCasts (expression : String) :
    (stripCasts expression).toList = stripCastsOf expression.toList :=
  String.toList_ofList

/-- What is left of an expression without the blanks around it and the casts at its end. -/
structure IsWithoutCasts (cs rest : List Char) : Prop where
  /-- The expression is what is left, followed by casts outside literals and parentheses. -/
  followed : FollowedByCasts rest (strip cs)
  /-- No quote is removed. -/
  quotes : rest.count '\'' = cs.count '\''
  /-- Every literal survives. -/
  literals : literalsOf rest = literalsOf cs
  /-- What is left is balanced exactly if the expression is. -/
  balanced : isBalanced rest = isBalanced cs
  /-- No cast that could be removed is at the end. -/
  last : ∀ front target, SplitsAtCast rest front target → isCastTarget target = false

/-- Removing the casts at the end of an expression removes casts outside literals and parentheses
and keeps all else, and nothing is left for a second time. -/
theorem isWithoutCasts_stripCasts (expression : String) :
    IsWithoutCasts expression.toList (stripCasts expression).toList ∧
      stripCasts (stripCasts expression) = stripCasts expression := by
  constructor
  · rw [toList_stripCasts]
    exact { followed := followedByCasts_stripCastsOf _
            quotes := count_quote_stripCastsOf _
            literals := literalsOf_stripCastsOf _
            balanced := isBalanced_stripCastsOf _
            last := dropCast?_eq_none_iff.1 (dropCast?_stripCastsOf _) }
  · rw [stripCasts, toList_stripCasts, stripCastsOf_stripCastsOf]
    rfl

end SchemaCodegen.ServerDefault
