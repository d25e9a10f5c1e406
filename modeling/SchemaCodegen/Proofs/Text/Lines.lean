import SchemaCodegen.Text.Lines

/-!
# Proofs: lines of a text

A text falls into the lines that its line feeds end, with an unfinished line at its end if there is
one. The lines that were set under each other are found again if none of them holds a line feed, and
counting lines counts exactly them.
-/

namespace SchemaCodegen.Text

/-- The lines of a text: what stands before each line feed, and what follows the last one. -/
def linesOf : List Char → List (List Char)
  | [] => []
  | c :: rest =>
    if c = '\n' then [] :: linesOf rest
    else (c :: (linesOf rest).headD []) :: (linesOf rest).tail

/-! ## Taking lines apart -/

theorem linesOf_eq_nil_iff {cs : List Char} : linesOf cs = [] ↔ cs = [] := by
  cases cs with
  | nil => simp [linesOf]
  | cons c rest =>
    rw [linesOf]
    split <;> simp

/-- A line without line feeds is the first line of a text that it begins. -/
theorem linesOf_append_lineFeed {line : List Char} (h : '\n' ∉ line) (rest : List Char) :
    linesOf (line ++ '\n' :: rest) = line :: linesOf rest := by
  induction line with
  | nil => simp [linesOf]
  | cons c line ih =>
    rw [List.mem_cons, not_or] at h
    rw [List.cons_append, linesOf, if_neg (Ne.symm h.1), ih h.2]
    rfl

/-- Lines that are ended by line feeds are the lines of the text that they make. -/
theorem linesOf_flatMap_lineFeed {lines : List (List Char)} (h : ∀ line ∈ lines, '\n' ∉ line) :
    linesOf (lines.flatMap (· ++ ['\n'])) = lines := by
  induction lines with
  | nil => rfl
  | cons line lines ih =>
    rw [List.forall_mem_cons] at h
    rw [List.flatMap_cons, List.append_assoc, List.singleton_append,
      linesOf_append_lineFeed h.1, ih h.2]

theorem getLast?_flatMap_lineFeed {lines : List (List Char)} (h : lines ≠ []) :
    (lines.flatMap (· ++ ['\n'])).getLast? = some '\n' := by
  rw [← List.dropLast_concat_getLast h]
  simp

/-- A text of lines that are ended by line feeds ends in one only, if its last line is not empty. -/
theorem not_lineFeeds_suffix {lines : List (List Char)} (h : ∀ line ∈ lines, '\n' ∉ line)
    (hlast : ∀ line ∈ lines.getLast?, line ≠ []) :
    ¬ ['\n', '\n'] <:+ lines.flatMap (· ++ ['\n']) := by
  intro hsuffix
  rcases List.eq_nil_or_concat lines with rfl | ⟨front, last, rfl⟩
  · simp at hsuffix
  · rw [List.concat_eq_append] at h hlast hsuffix
    obtain ⟨before, he⟩ := hsuffix
    have hne : last ≠ [] := hlast last (by simp)
    have hboth : (before ++ ['\n']) ++ ['\n'] =
        (front.flatMap (· ++ ['\n']) ++ last) ++ ['\n'] := by
      simpa using he
    have hend := List.append_cancel_right hboth
    have hfeed : last.getLast hne = '\n' := by
      have hends := congrArg List.getLast? hend
      rw [List.getLast?_append, List.getLast?_append, List.getLast?_eq_some_getLast hne] at hends
      simpa [eq_comm] using hends
    exact h last (by simp) (hfeed ▸ List.getLast_mem hne)

/-! ## Counting lines -/

/-- A text with another character in front has a line more if the character is a line feed, or if
there was no line before. -/
theorem length_linesOf_cons (c : Char) (cs : List Char) :
    (linesOf (c :: cs)).length =
      if c = '\n' ∨ cs = [] then (linesOf cs).length + 1 else (linesOf cs).length := by
  rw [linesOf]
  by_cases hc : c = '\n'
  · rw [if_pos hc, if_pos (Or.inl hc), List.length_cons]
  · cases cs with
    | nil => simp [hc, linesOf]
    | cons d rest =>
      have hne : linesOf (d :: rest) ≠ [] := by simp [linesOf_eq_nil_iff]
      have hpos := List.length_pos_iff.2 hne
      rw [if_neg hc, if_neg (by simp [hc]), List.length_cons, List.length_tail]
      omega

/-- The lines of a text are its line feeds, and one more if it does not end in one. -/
theorem length_linesOf {cs : List Char} (h : cs ≠ []) :
    (linesOf cs).length = cs.count '\n' + if cs.getLast? == some '\n' then 0 else 1 := by
  induction cs with
  | nil => exact absurd rfl h
  | cons c rest ih =>
    rw [length_linesOf_cons, List.count_cons]
    cases rest with
    | nil => by_cases hc : c = '\n' <;> simp [hc, linesOf]
    | cons d rest =>
      rw [ih (by simp), List.getLast?_cons_cons]
      by_cases hc : c = '\n'
      · simp only [hc, true_or, if_pos, BEq.rfl]
        omega
      · simp [hc]

theorem countLines_eq (text : String) : countLines text = (linesOf text.toList).length := by
  rw [countLines]
  split
  · next h => rw [String.isEmpty_iff.1 h]; rfl
  · next h => rw [length_linesOf (by simpa using h)]

/-! ## Joined lines -/

/-- Joined lines with a line feed after the last are the lines with a line feed after each. -/
theorem toList_joinLines {lines : List String} (h : lines ≠ []) :
    (joinLines lines ++ "\n").toList = (lines.map String.toList).flatMap (· ++ ['\n']) := by
  induction lines with
  | nil => exact absurd rfl h
  | cons line lines ih =>
    cases lines with
    | nil => simp [joinLines]
    | cons next lines =>
      have ih := ih (by simp)
      rw [joinLines, String.toList_append] at ih ⊢
      rw [String.intercalate_cons_cons, String.toList_append, String.toList_append,
        List.append_assoc, ih]
      simp

/-- Groups of lines with an empty line between them are joined lines again. -/
theorem intercalate_joinLines {groups : List (List String)} (h : ∀ group ∈ groups, group ≠ []) :
    String.intercalate "\n\n" (groups.map joinLines) = joinLines ([""].intercalate groups) := by
  induction groups with
  | nil => rfl
  | cons group groups ih =>
    rw [List.forall_mem_cons] at h
    cases groups with
    | nil => simp
    | cons next groups =>
      have hrest : [""].intercalate (next :: groups) ≠ [] := by
        have hne := h.2 next (List.mem_cons_self ..)
        cases groups <;> simp [hne]
      have ih := ih h.2
      rw [List.map_cons] at ih
      rw [List.map_cons, List.map_cons, String.intercalate_cons_cons, ih,
        List.intercalate_cons_cons, List.append_assoc, joinLines, joinLines, joinLines,
        String.intercalate_append_of_ne_nil h.1 (by simp), List.singleton_append,
        String.intercalate_cons_of_ne_nil hrest, String.empty_append,
        show "\n\n" = "\n" ++ "\n" from rfl]
      simp only [String.append_assoc]

end SchemaCodegen.Text
