import SchemaCodegen.Proofs.Style.Written

/-!
# Proofs: where the assignments of tables stand

Table objects are assigned in the order of the tables. Where one table stands before another in that
order, the lines of its assignment stand before those of the other in the text.
-/

namespace SchemaCodegen

open SchemaCodegen.Text SchemaCodegen.Code

/-- Groups of lines with an empty line between them are split like the list of groups. -/
theorem intercalate_sections_append {front back : List (List String)} (hfront : front ≠ [])
    (hback : back ≠ []) :
    [""].intercalate (front ++ back) =
      [""].intercalate front ++ ([""] ++ [""].intercalate back) := by
  induction front with
  | nil => exact absurd rfl hfront
  | cons group front ih =>
    cases front with
    | nil =>
      obtain ⟨next, rest, rfl⟩ := List.exists_cons_of_ne_nil hback
      rw [List.singleton_append, List.intercalate_cons_cons, List.intercalate_singleton,
        List.append_assoc]
    | cons other front =>
      rw [List.cons_append, List.cons_append, List.intercalate_cons_cons, ← List.cons_append,
        ih (List.cons_ne_nil _ _), List.intercalate_cons_cons]
      simp only [List.append_assoc]

/-- Of two groups of lines, the one that is listed first stands first. -/
theorem exists_split_intercalate {groups : List (List String)} {a b : List String}
    (h : [a, b].Sublist groups) :
    ∃ front middle back, [""].intercalate groups = front ++ a ++ (middle ++ b ++ back) := by
  -- cut the list between the two groups; each is then found on its own side
  obtain ⟨first, second, rfl, ha, hb⟩ := List.cons_sublist_iff.1 h
  have hb : b ∈ second := List.singleton_sublist.1 hb
  obtain ⟨front, middle, hsplit⟩ := infix_intercalate_sections ha
  obtain ⟨rest, back, hsplit'⟩ := infix_intercalate_sections hb
  refine ⟨front, middle ++ [""] ++ rest, back, ?_⟩
  rw [intercalate_sections_append (List.ne_nil_of_mem ha) (List.ne_nil_of_mem hb), ← hsplit,
    ← hsplit']
  simp only [List.append_assoc]

namespace TableObjects

variable (schema : Schema) (options : Options)

/-- In the text of the table objects, the assignment of one table stands before that of another. -/
def PlacesBefore [Holding] (a b : Table) : Prop :=
  ∃ first second,
    [(a, first), (b, second)].Sublist
        ((Dependency.sortTables schema.tables).zip (blocks schema options)) ∧
      ∃ front middle back,
        linesOf (generate .tables schema options).output.toList =
          front ++ first.lines.map String.toList ++
            (middle ++ second.lines.map String.toList ++ back)

theorem map_fst_zip_blocks :
    ((Dependency.sortTables schema.tables).zip (blocks schema options)).map Prod.fst =
      Dependency.sortTables schema.tables :=
  List.map_fst_zip (length_blocks schema options).ge

/-- Assignments stand in the text as they are listed. -/
theorem exists_split_output [Holding] {first second : TableBlock}
    (h : [first, second].Sublist (blocks schema options)) :
    ∃ front middle back,
      linesOf (generate .tables schema options).output.toList =
        front ++ first.lines.map String.toList ++
          (middle ++ second.lines.map String.toList ++ back) := by
  have hlines : linesOf (generate .tables schema options).output.toList =
      ([""].intercalate (toModule schema options).sections).map String.toList :=
    Module.linesOf_render (Style.isSection_of_mem_sections .tables schema options)
  have hsections : [first.lines, second.lines].Sublist (toModule schema options).sections :=
    ((h.map TableBlock.lines).cons _).cons _
  obtain ⟨front, middle, back, hsplit⟩ := exists_split_intercalate hsections
  refine ⟨front.map String.toList, middle.map String.toList, back.map String.toList, ?_⟩
  rw [hlines, hsplit]
  simp only [List.map_append]

/-- The assignments stand in the order of the tables. -/
theorem placesBefore_iff [Holding] {a b : Table} :
    PlacesBefore schema options a b ↔ [a, b].Sublist (Dependency.sortTables schema.tables) := by
  constructor
  · rintro ⟨first, second, hsub, _⟩
    have hfst := hsub.map Prod.fst
    rwa [map_fst_zip_blocks] at hfst
  · intro hsub
    rw [← map_fst_zip_blocks schema options] at hsub
    obtain ⟨pairs, hpairs, hmap⟩ := List.sublist_map_iff.1 hsub
    obtain ⟨⟨_, first⟩, rest, rfl, rfl, hrest⟩ := List.map_eq_cons_iff.1 hmap.symm
    obtain ⟨⟨_, second⟩, last, rfl, rfl, hlast⟩ := List.map_eq_cons_iff.1 hrest
    obtain rfl := List.map_eq_nil_iff.1 hlast
    have hsnd := hpairs.map Prod.snd
    rw [List.map_snd_zip (length_blocks schema options).le] at hsnd
    exact ⟨first, second, hpairs, exists_split_output schema options hsnd⟩

end TableObjects

end SchemaCodegen
