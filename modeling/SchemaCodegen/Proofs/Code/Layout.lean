import Mathlib.Algebra.GroupWithZero.Nat
import Mathlib.Data.List.Chain
import SchemaCodegen.Code.Module
import SchemaCodegen.Proofs.Text.Lines
import SchemaCodegen.Proofs.Text.Plain
import SchemaCodegen.Text.Blank

/-!
# Proofs: the layout of modules

A section is a group of lines that begins and ends with something and has no two blank lines in a
row. Sections with an empty line between them are a section again, which is how classes are made of
parts and modules of classes. The lines of a module are those of its sections and the empty lines
between them.
-/

namespace SchemaCodegen.Code

open SchemaCodegen.Text

/-! ## Blank lines -/

/-- Whether a line shows nothing. -/
def isBlankLine (line : List Char) : Bool :=
  line.all isBlank

/-- A line shows something if one of its characters does. -/
theorem isBlankLine_eq_false {line : List Char} {c : Char} (hc : isBlank c = false)
    (h : c ∈ line) : isBlankLine line = false := by
  rw [isBlankLine, List.all_eq_false]
  exact ⟨c, h, by simp [hc]⟩

/-- Two lines of which one at least shows something. -/
def NotBothBlank (a b : List Char) : Prop :=
  isBlankLine a = false ∨ isBlankLine b = false

/-! ## Sections -/

/-- Lines that begin and end with something and have no two blank ones in a row. -/
structure IsSection (lines : List String) : Prop where
  /-- There are lines. -/
  ne_nil : lines ≠ []
  /-- Each of them is one line. -/
  isLine : ∀ line ∈ lines, IsLine line
  /-- The first line is not blank. -/
  head : ∀ line ∈ lines.head?, isBlankLine line.toList = false
  /-- The last line is not blank. -/
  last : ∀ line ∈ lines.getLast?, isBlankLine line.toList = false
  /-- No two lines in a row are blank. -/
  chain : lines.IsChain fun a b => NotBothBlank a.toList b.toList

/-- Lines of which none is blank are a section. -/
theorem isSection_of_forall {lines : List String} (hne : lines ≠ [])
    (h : ∀ line ∈ lines, IsLine line ∧ isBlankLine line.toList = false) : IsSection lines := by
  refine { ne_nil := hne, isLine := fun line hline => (h line hline).1, head := ?_, last := ?_,
           chain := ?_ }
  · -- head
    intro line hline
    exact (h line (List.mem_of_mem_head? hline)).2
  · -- last
    intro line hline
    exact (h line (List.mem_of_getLast? hline)).2
  · -- chain
    have hpair : lines.Pairwise fun a b => NotBothBlank a.toList b.toList :=
      List.pairwise_of_forall_mem_list fun a ha b _ => Or.inl (h a ha).2
    exact hpair.isChain

/-- Two sections with an empty line between them are a section. -/
theorem IsSection.join {a b : List String} (ha : IsSection a) (hb : IsSection b) :
    IsSection (a ++ [""] ++ b) := by
  refine { ne_nil := by simp [ha.ne_nil], isLine := ?_, head := ?_, last := ?_, chain := ?_ }
  · -- isLine
    simp only [List.forall_mem_append, List.forall_mem_singleton]
    exact ⟨⟨ha.isLine, isMadeOf_empty⟩, hb.isLine⟩
  · -- head
    rw [List.append_assoc, List.head?_append_of_ne_nil _ ha.ne_nil]
    exact ha.head
  · -- last
    rw [List.getLast?_append_of_ne_nil _ hb.ne_nil]
    exact hb.last
  · -- chain: the lines on both sides of the empty one show something
    refine (ha.chain.append (List.isChain_singleton _) ?_).append hb.chain ?_
    · intro x hx y _
      exact Or.inl (ha.last x hx)
    · intro x _ y hy
      exact Or.inr (hb.head y hy)

theorem isSection_intercalate {sections : List (List String)} (hne : sections ≠ [])
    (h : ∀ lines ∈ sections, IsSection lines) : IsSection ([""].intercalate sections) := by
  induction sections with
  | nil => exact absurd rfl hne
  | cons lines sections ih =>
    rw [List.forall_mem_cons] at h
    cases sections with
    | nil => simpa using h.1
    | cons next sections =>
      rw [List.intercalate_cons_cons]
      exact h.1.join (ih (by simp) h.2)

/-- Groups of lines with an empty line between them have their own lines and one more for each group
but the first. -/
theorem length_intercalate_sections (group : List String) (groups : List (List String)) :
    ([""].intercalate (group :: groups)).length =
      group.length + (groups.map fun lines => lines.length + 1).sum := by
  induction groups generalizing group with
  | nil => simp
  | cons next groups ih =>
    rw [List.intercalate_cons_cons, List.length_append, List.length_append, ih next,
      List.map_cons, List.sum_cons, List.length_singleton]
    omega

/-! ## Modules -/

namespace Module

/-- The lines of a module: those of its sections, with an empty line between them. -/
def lines (m : Module) : List String :=
  [""].intercalate m.sections

/-- The text of a module whose sections have lines is its lines, each ended by a line feed. -/
theorem toList_render {m : Module} (h : ∀ lines ∈ m.sections, IsSection lines) :
    m.render.toList = (m.lines.map String.toList).flatMap (· ++ ['\n']) := by
  have hne : m.lines ≠ [] := (isSection_intercalate (by simp [sections]) h).ne_nil
  rw [render, intercalate_joinLines fun lines hlines => (h lines hlines).ne_nil]
  exact toList_joinLines hne

/-- The lines that are found in the text of a module are its lines. -/
theorem linesOf_render {m : Module} (h : ∀ lines ∈ m.sections, IsSection lines) :
    linesOf m.render.toList = m.lines.map String.toList := by
  rw [toList_render h]
  refine linesOf_flatMap_lineFeed fun line hline => ?_
  obtain ⟨text, htext, rfl⟩ := List.mem_map.1 hline
  have hsection : IsSection m.lines := isSection_intercalate (by simp [sections]) h
  exact (hsection.isLine text htext).not_mem_lineFeed

end Module

end SchemaCodegen.Code
