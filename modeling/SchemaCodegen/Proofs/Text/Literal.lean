import Mathlib.Logic.Function.Basic
import SchemaCodegen.Proofs.Text.Plain
import SchemaCodegen.Proofs.Text.Run

/-!
# Proofs: quoted texts are read back

Reading a quoted text off the front of any other gives the text and what stood after it, so no two
texts are quoted alike. A quoted text stays in its line, and inside it every quote is guarded by a
backslash that no other backslash takes away. Since a literal tells where it ends, so does a list of
literals, as long as what follows in the list begins otherwise.
-/

namespace SchemaCodegen.Text

/-- An escaped character is read as the character. -/
theorem readInside_escapeChar (c : Char) (rest : List Char) :
    readInside (escapeChar c ++ rest) = consRead c (readInside rest) := by
  unfold escapeChar
  split_ifs with hslash hquote hfeed hreturn htab
  · rw [hslash, readInside.eq_def]
    rfl
  · rw [hquote, readInside.eq_def]
    rfl
  · rw [hfeed, readInside.eq_def]
    rfl
  · rw [hreturn, readInside.eq_def]
    rfl
  · rw [htab, readInside.eq_def]
    rfl
  · rw [List.singleton_append, readInside.eq_def]
    simp only [if_neg hquote, if_neg (not_or.2 ⟨hfeed, hreturn⟩), if_neg hslash]

theorem readInside_flatMap_escapeChar (cs rest : List Char) :
    readInside (cs.flatMap escapeChar ++ '\'' :: rest) = some (cs, rest) := by
  induction cs with
  | nil =>
    rw [List.flatMap_nil, List.nil_append, readInside.eq_def]
    rfl
  | cons c cs ih => rw [List.flatMap_cons, List.append_assoc, readInside_escapeChar, ih, consRead]

theorem toList_quote (text : String) :
    (quote text).toList = '\'' :: (text.toList.flatMap escapeChar ++ ['\'']) := by
  simp [quote, escape]

/-- A quoted text is read as the text, whatever stands after it. -/
theorem readLiteral_quote_append (text : String) (rest : List Char) :
    readLiteral ((quote text).toList ++ rest) = some (text.toList, rest) := by
  rw [toList_quote, List.cons_append, List.append_assoc, readLiteral, if_pos rfl]
  exact readInside_flatMap_escapeChar _ _

/-- A quoted text ends where it is read to end: whatever follows can be told from it. -/
theorem quote_append_inj {s t x y : String} (h : quote s ++ x = quote t ++ y) : s = t ∧ x = y := by
  have hread := readLiteral_quote_append s x.toList
  rw [← String.toList_append, h, String.toList_append, readLiteral_quote_append] at hread
  obtain ⟨htext, hrest⟩ := Prod.mk.inj (Option.some.inj hread)
  exact ⟨String.toList_inj.1 htext.symm, String.toList_inj.1 hrest.symm⟩

/-- No two texts are quoted alike. -/
theorem quote_injective : Function.Injective quote :=
  fun _ _ h => (quote_append_inj (congrArg (· ++ "") h)).1

/-! ## Quotes inside a literal -/

/-- A character is written as a backslash and a sign, or as itself if it is neither a backslash nor
a quote. -/
theorem escapeChar_eq_or (c : Char) :
    (∃ sign, escapeChar c = ['\\', sign]) ∨ escapeChar c = [c] ∧ c ≠ '\\' ∧ c ≠ '\'' := by
  unfold escapeChar
  split_ifs with hslash hquote
  · exact Or.inl ⟨_, rfl⟩
  · exact Or.inl ⟨_, rfl⟩
  · exact Or.inl ⟨_, rfl⟩
  · exact Or.inl ⟨_, rfl⟩
  · exact Or.inl ⟨_, rfl⟩
  · exact Or.inr ⟨rfl, hslash, hquote⟩

/-- In front of a quote inside a literal the number of backslashes is odd. -/
theorem odd_runAtEnd_of_flatMap {cs front back : List Char}
    (h : cs.flatMap escapeChar = front ++ '\'' :: back) : Odd (runAtEnd '\\' front) := by
  induction cs generalizing front with
  | nil => simp at h
  | cons c cs ih =>
    rw [List.flatMap_cons] at h
    rcases escapeChar_eq_or c with ⟨sign, he⟩ | ⟨he, hslash, hquote⟩
    · -- The quote may be the sign itself; otherwise it stands behind the whole escape, and a
      -- backslash for a sign makes a pair with the first one.
      rw [he] at h
      match front with
      | [] => cases (List.cons.inj h).1
      | [slash] =>
        obtain ⟨rfl, _⟩ := List.cons.inj h
        decide
      | slash :: mark :: front =>
        obtain ⟨rfl, htail⟩ := List.cons.inj h
        obtain ⟨rfl, hrest⟩ := List.cons.inj htail
        have hodd := ih hrest
        by_cases hsign : sign = '\\'
        · rw [hsign, ← Nat.not_even_iff_odd, even_runAtEnd_pair, Nat.not_even_iff_odd]
          exact hodd
        · rwa [runAtEnd_cons fun _ => ⟨sign, List.mem_cons_self .., hsign⟩,
            runAtEnd_cons fun hsame => absurd hsame hsign]
    · rw [he] at h
      cases front with
      | nil => exact absurd (List.cons.inj h).1 hquote
      | cons d front =>
        obtain ⟨rfl, hrest⟩ := List.cons.inj h
        rw [runAtEnd_cons fun hsame => absurd hsame hslash]
        exact ih hrest

/-- A quote inside a quoted text is guarded: an odd number of backslashes stands in front of it. -/
theorem odd_runAtEnd_of_quote {text : String} {front back : List Char}
    (h : (quote text).toList = '\'' :: (front ++ '\'' :: back)) (hback : back ≠ []) :
    Odd (runAtEnd '\\' front) := by
  rw [toList_quote] at h
  obtain ⟨rest, last, rfl⟩ := List.eq_nil_or_concat back |>.resolve_left hback
  have hinside : text.toList.flatMap escapeChar = front ++ '\'' :: rest := by
    have htail := (List.cons.inj h).2
    rw [List.concat_eq_append, ← List.cons_append, ← List.append_assoc] at htail
    exact (List.append_inj' htail rfl).1
  exact odd_runAtEnd_of_flatMap hinside

/-- What makes a literal of the generated language stand for a text and nothing else. -/
structure StandsFor (literal text : List Char) : Prop where
  /-- It is read as the text, and nothing follows. -/
  reads : readLiteral literal = some (text, [])
  /-- It holds no line feed. -/
  lineFeed : '\n' ∉ literal
  /-- It holds no carriage return. -/
  carriageReturn : '\r' ∉ literal
  /-- Every quote between the first character and the last is guarded: the backslashes in front of
  it are odd in number. -/
  guarded : ∀ front back, literal = '\'' :: (front ++ '\'' :: back) → back ≠ [] →
    Odd (runAtEnd '\\' front)

/-- A quoted text stands for the text, whatever the text is, and no two texts are quoted alike. -/
theorem standsFor_quote :
    (∀ text : String, StandsFor (quote text).toList text.toList) ∧ Function.Injective quote := by
  refine ⟨fun text => ?_, quote_injective⟩
  exact { reads := by simpa using readLiteral_quote_append text []
          lineFeed := (isLine_quote text).not_mem_lineFeed
          carriageReturn := (isLine_quote text).not_mem_return
          guarded := fun _ _ => odd_runAtEnd_of_quote }

/-! ## Lists of literals -/

/-- A text that begins as a literal does. -/
def BeginsLiteral (text : String) : Prop :=
  text.toList.head? = some '\''

theorem beginsLiteral_quote_append (text rest : String) : BeginsLiteral (quote text ++ rest) := by
  rw [BeginsLiteral, String.toList_append, toList_quote]
  rfl

/-- How a list goes on behind its first item. -/
def continued : List String → String
  | [] => ""
  | item :: items => ", " ++ commaSeparated (item :: items)

theorem commaSeparated_cons (item : String) (items : List String) :
    commaSeparated (item :: items) = item ++ continued items := by
  cases items with
  | nil => simp [commaSeparated, continued]
  | cons next items =>
    rw [commaSeparated, String.intercalate_cons_cons, String.append_assoc]
    rfl

/-- How a list goes on tells the rest of it. -/
theorem commaSeparated_of_continued {items others : List String}
    (h : continued items = continued others) : commaSeparated items = commaSeparated others := by
  cases items with
  | nil =>
    cases others with
    | nil => rfl
    | cons other others => exact absurd h.symm (by simp [continued])
  | cons item items =>
    cases others with
    | nil => exact absurd h (by simp [continued])
    | cons other others => exact (String.append_right_inj _).1 h

theorem not_beginsLiteral_commaSeparated {items : List String}
    (h : ∀ item ∈ items, ¬BeginsLiteral item) : ¬BeginsLiteral (commaSeparated items) := by
  cases items with
  | nil => simp [commaSeparated, BeginsLiteral]
  | cons item items =>
    have hitem := h item (List.mem_cons_self ..)
    rw [BeginsLiteral] at hitem
    rw [commaSeparated_cons, BeginsLiteral, String.toList_append, List.head?_append]
    cases hhead : item.toList.head? with
    | some c => simpa [hhead] using hitem
    | none => cases items <;> simp [continued]

/-- A list that begins with literals tells them, and what the rest of it is made of, if none of the
rest begins as a literal does. -/
theorem commaSeparated_quote_inj {texts others tail otherTail : List String}
    (htail : ∀ item ∈ tail, ¬BeginsLiteral item)
    (hother : ∀ item ∈ otherTail, ¬BeginsLiteral item)
    (h : commaSeparated (texts.map quote ++ tail) =
      commaSeparated (others.map quote ++ otherTail)) :
    texts = others ∧ commaSeparated tail = commaSeparated otherTail := by
  induction texts generalizing others with
  | nil =>
    cases others with
    | nil => exact ⟨rfl, h⟩
    | cons other others =>
      refine absurd ?_ (not_beginsLiteral_commaSeparated htail)
      rw [show commaSeparated tail = _ from h, List.map_cons, List.cons_append, commaSeparated_cons]
      exact beginsLiteral_quote_append _ _
  | cons text texts ih =>
    rw [List.map_cons, List.cons_append, commaSeparated_cons] at h
    cases others with
    | nil =>
      refine absurd ?_ (not_beginsLiteral_commaSeparated hother)
      rw [← show _ = commaSeparated otherTail from h]
      exact beginsLiteral_quote_append _ _
    | cons other others =>
      rw [List.map_cons, List.cons_append, commaSeparated_cons] at h
      obtain ⟨rfl, hrest⟩ := quote_append_inj h
      obtain ⟨rfl, htails⟩ := ih (commaSeparated_of_continued hrest)
      exact ⟨rfl, htails⟩

end SchemaCodegen.Text
