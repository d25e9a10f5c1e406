/-!
# Cutting texts at a character

A text is cut at the first character of a kind, or at all of them.
-/

namespace SchemaCodegen.Text

/-- The text before the first character of a kind, and the text after it if there is one. -/
def splitFirst (mark : Char) : List Char → List Char × Option (List Char)
  | [] => ([], none)
  | c :: rest =>
    if c == mark then ([], some rest)
    else
      let (before, after) := splitFirst mark rest
      (c :: before, after)

/-- The parts with the character between them are the text. -/
theorem splitFirst_append (mark : Char) (cs : List Char) :
    (splitFirst mark cs).1 ++ ((splitFirst mark cs).2.map (mark :: ·)).getD [] = cs := by
  induction cs with
  | nil => rfl
  | cons c rest ih =>
    by_cases h : c = mark
    · simp [splitFirst, h]
    · simpa [splitFirst, h] using ih

/-- The first part does not hold the character. -/
theorem not_mem_splitFirst (mark : Char) (cs : List Char) : mark ∉ (splitFirst mark cs).1 := by
  induction cs with
  | nil => simp [splitFirst]
  | cons c rest ih =>
    by_cases h : c = mark
    · simp [splitFirst, h]
    · simpa [splitFirst, h, Ne.symm h] using ih

/-- The texts between the characters of a kind. -/
def splitAll (mark : Char) : List Char → List (List Char)
  | [] => [[]]
  | c :: rest =>
    match splitAll mark rest with
    | [] => [[c]]
    | part :: parts => if c == mark then [] :: part :: parts else (c :: part) :: parts

/-- There is always a part. -/
theorem splitAll_ne_nil (mark : Char) (cs : List Char) : splitAll mark cs ≠ [] := by
  cases cs with
  | nil => simp [splitAll]
  | cons c rest =>
    rw [splitAll]
    split
    · simp
    · split <;> simp

/-- No part holds the character. -/
theorem not_mem_of_mem_splitAll {mark : Char} {cs part : List Char}
    (h : part ∈ splitAll mark cs) : mark ∉ part := by
  induction cs generalizing part with
  | nil => simp_all [splitAll]
  | cons c rest ih =>
    rw [splitAll] at h
    split at h
    · next e => exact absurd e (splitAll_ne_nil mark rest)
    · next first parts e =>
      rw [e] at ih
      split at h
      · next hc =>
        rcases List.mem_cons.1 h with rfl | h
        · simp
        · exact ih h
      · next hc =>
        rcases List.mem_cons.1 h with rfl | h
        · have hne : mark ≠ c := fun e => hc (by simp [e])
          simp [hne, ih (List.mem_cons_self ..)]
        · exact ih (List.mem_cons_of_mem _ h)

/-- The parts with the character between them are the text. -/
theorem intercalate_splitAll (mark : Char) (cs : List Char) :
    List.intercalate [mark] (splitAll mark cs) = cs := by
  induction cs with
  | nil => rfl
  | cons c rest ih =>
    rw [splitAll]
    split
    · next e => exact absurd e (splitAll_ne_nil mark rest)
    · next first parts e =>
      rw [e] at ih
      split
      · next hc =>
        rw [← ih, ← beq_iff_eq.1 hc]
        simp [List.intercalate]
      · rw [← ih]
        cases parts <;> simp [List.intercalate]

end SchemaCodegen.Text
