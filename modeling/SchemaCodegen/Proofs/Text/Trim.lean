import Mathlib.Data.List.DropRight
import SchemaCodegen.Text.Blank

/-!
# Proofs: trimmed texts

A text without blanks at its ends is left alone by trimming, and trimming gives such a text. What
trimming takes away at the end is blank.
-/

namespace SchemaCodegen.Text

/-- A text with a blank at neither end. -/
structure IsTrimmed (cs : List Char) : Prop where
  /-- The first character is no blank. -/
  head : ∀ c ∈ cs.head?, isBlank c = false
  /-- The last character is no blank. -/
  last : ∀ c ∈ cs.getLast?, isBlank c = false

theorem stripEnd_eq_rdropWhile (cs : List Char) : stripEnd cs = cs.rdropWhile isBlank :=
  rfl

theorem strip_eq_stripEnd (cs : List Char) : strip cs = stripEnd (cs.dropWhile isBlank) :=
  rfl

theorem stripEnd_isPrefix (cs : List Char) : stripEnd cs <+: cs :=
  cs.rdropWhile_prefix isBlank

/-- What is taken away at the end is blank. -/
theorem exists_stripEnd_append (cs : List Char) :
    ∃ blanks, (∀ c ∈ blanks, isBlank c = true) ∧ cs = stripEnd cs ++ blanks :=
  ⟨cs.rtakeWhile isBlank, fun _ => List.mem_rtakeWhile_imp,
    List.rdropWhile_append_rtakeWhile.symm⟩

/-- What is taken away at either end is blank. -/
theorem exists_strip_append (cs : List Char) :
    ∃ before after, (∀ c ∈ before, isBlank c = true) ∧ (∀ c ∈ after, isBlank c = true) ∧
      cs = before ++ strip cs ++ after := by
  obtain ⟨after, hafter, hsplit⟩ := exists_stripEnd_append (cs.dropWhile isBlank)
  refine ⟨cs.takeWhile isBlank, after, fun _ => List.mem_takeWhile_imp, hafter, ?_⟩
  rw [strip_eq_stripEnd, List.append_assoc, ← hsplit, List.takeWhile_append_dropWhile]

theorem length_strip_le (cs : List Char) : (strip cs).length ≤ cs.length :=
  calc (strip cs).length ≤ (cs.dropWhile isBlank).length := (stripEnd_isPrefix _).length_le
    _ ≤ cs.length := (cs.dropWhile_sublist isBlank).length_le

theorem dropWhile_isBlank_append_cons {c : Char} (hc : isBlank c = false) (front back : List Char) :
    (front ++ c :: back).dropWhile isBlank = front.dropWhile isBlank ++ c :: back := by
  rw [List.dropWhile_append]
  split
  · next hfront =>
    rw [List.isEmpty_iff.1 hfront, List.dropWhile_cons_of_neg (by simp [hc]), List.nil_append]
  · rfl

/-- What stands before a character that is no blank is not trimmed at its end. -/
theorem stripEnd_append_cons {c : Char} (hc : isBlank c = false) (front back : List Char) :
    stripEnd (front ++ c :: back) = front ++ c :: stripEnd back := by
  have hreverse : (front ++ c :: back).reverse = back.reverse ++ c :: front.reverse := by simp
  rw [stripEnd, stripEnd, trimEndWith, trimEndWith, hreverse, dropWhile_isBlank_append_cons hc]
  simp

/-- A text that begins with no blank is trimmed once the blanks at its end are gone. -/
theorem isTrimmed_stripEnd {cs : List Char} (h : ∀ c ∈ cs.head?, isBlank c = false) :
    IsTrimmed (stripEnd cs) := by
  constructor
  · intro c hc
    obtain ⟨rest, hrest⟩ := stripEnd_isPrefix cs
    refine h c ?_
    rw [← hrest, List.head?_append, Option.mem_def.1 hc]
    rfl
  · intro c hc
    rw [stripEnd_eq_rdropWhile] at hc
    obtain ⟨hne, rfl⟩ := List.mem_getLast?_eq_getLast hc
    simpa using List.rdropWhile_last_not isBlank cs hne

theorem isTrimmed_strip (cs : List Char) : IsTrimmed (strip cs) := by
  rw [strip_eq_stripEnd]
  refine isTrimmed_stripEnd fun c hc => ?_
  have hnot := List.head?_dropWhile_not isBlank cs
  rw [Option.mem_def.1 hc] at hnot
  simpa using hnot

/-- The front of a trimmed text is trimmed once the blanks at its end are gone. -/
theorem IsTrimmed.stripEnd {cs front : List Char} (h : IsTrimmed cs) (hfront : front <+: cs) :
    IsTrimmed (stripEnd front) := by
  obtain ⟨rest, rfl⟩ := hfront
  refine isTrimmed_stripEnd fun c hc => h.head c ?_
  rw [List.head?_append, Option.mem_def.1 hc]
  rfl

/-- Trimming leaves a trimmed text alone. -/
theorem IsTrimmed.strip_eq {cs : List Char} (h : IsTrimmed cs) : strip cs = cs := by
  have hstart : cs.dropWhile isBlank = cs := by
    cases cs with
    | nil => rfl
    | cons c cs => rw [List.dropWhile_cons_of_neg (by simp [h.head c rfl])]
  rw [strip_eq_stripEnd, hstart, stripEnd_eq_rdropWhile, List.rdropWhile_eq_self_iff]
  intro hne
  simp [h.last _ (List.getLast?_eq_getLast_of_ne_nil hne)]

theorem strip_strip (cs : List Char) : strip (strip cs) = strip cs :=
  (isTrimmed_strip cs).strip_eq

/-! ## Blanks around a text -/

theorem stripEnd_append_blanks {blanks : List Char} (h : ∀ c ∈ blanks, isBlank c = true)
    (cs : List Char) : stripEnd (cs ++ blanks) = stripEnd cs := by
  have hreverse : ∀ c ∈ blanks.reverse, isBlank c = true :=
    fun c hc => h c (List.mem_reverse.1 hc)
  rw [stripEnd, stripEnd, trimEndWith, trimEndWith, List.reverse_append,
    List.dropWhile_append_of_pos hreverse]

/-- More blanks around a text do not change what trimming leaves. -/
theorem strip_append_blanks {before after : List Char} (hbefore : ∀ c ∈ before, isBlank c = true)
    (hafter : ∀ c ∈ after, isBlank c = true) (cs : List Char) :
    strip (before ++ cs ++ after) = strip cs := by
  rw [strip_eq_stripEnd, strip_eq_stripEnd, List.append_assoc,
    List.dropWhile_append_of_pos hbefore, List.dropWhile_append]
  split
  · next hall =>
    -- A text of blanks only leaves nothing, with or without more of them.
    rw [List.isEmpty_iff.1 hall, List.dropWhile_eq_nil_iff.2 hafter]
  · exact stripEnd_append_blanks hafter _

end SchemaCodegen.Text
