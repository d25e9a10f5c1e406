import Mathlib.Data.List.Forall2
import SchemaCodegen.Generation
import SchemaCodegen.Proofs.Dependency.TableOrder
import SchemaCodegen.Proofs.Style.Lexical

/-!
# Proofs: every table is written in both styles

Every table of a schema has its class in the text of one style and its assignment in the text of the
other. What holds of the class and the assignment of a table under any names therefore holds of the
blocks of the two texts, table by table. What stands in a block stands in the text.
-/

namespace SchemaCodegen

open SchemaCodegen.Text SchemaCodegen.Code

/-- A list beside what it and another list give is made from the two lists place by place. -/
theorem zip_zipWith_right {α β γ : Type} (f : α → β → γ) (as : List α) (bs : List β) :
    as.zip (List.zipWith f as bs) = (as.zip bs).map fun pair => (pair.1, f pair.1 pair.2) := by
  induction as generalizing bs with
  | nil => rfl
  | cons a as ih =>
    cases bs with
    | nil => rfl
    | cons b bs => exact congrArg ((a, f a b) :: ·) (ih bs)

/-- What stands beside a member of a list, and is made from the two lists place by place, is made
from that member. -/
theorem mem_zip_zipWith_iff {α β γ : Type} {f : α → β → γ} {as : List α} {bs : List β} {a : α}
    {c : γ} : (a, c) ∈ as.zip (List.zipWith f as bs) ↔ ∃ b, (a, b) ∈ as.zip bs ∧ c = f a b := by
  rw [zip_zipWith_right, List.mem_map]
  constructor
  · rintro ⟨⟨_, b⟩, hmem, heq⟩
    obtain ⟨rfl, rfl⟩ := Prod.mk.inj heq
    exact ⟨b, hmem, rfl⟩
  · rintro ⟨b, hmem, rfl⟩
    exact ⟨(a, b), hmem, rfl⟩

theorem forall₂_zipWith_right {α β γ : Type} {r : α → γ → Prop} {f : α → β → γ}
    (h : ∀ a b, r a (f a b)) {as : List α} {bs : List β} (hlength : as.length = bs.length) :
    List.Forall₂ r as (List.zipWith f as bs) := by
  refine List.forall₂_iff_zip.2 ⟨?_, fun {a c} hpair => ?_⟩
  · rw [List.length_zipWith, hlength, Nat.min_self]
  · obtain ⟨b, _, rfl⟩ := mem_zip_zipWith_iff.1 hpair
    exact h a b

/-- What a class states of its table, in parts. -/
def Code.ClassBlock.items (block : ClassBlock) : List Expr :=
  match block.tableArgs with
  | some (.tuple items) => items
  | _ => []

theorem Declarative.items_classOf (dialect : Dialect) (options : Options) (table : Table)
    (name : String) :
    (classOf dialect options table name).items =
      constraintArguments table dialect options ++ indexArguments table options ++
        keywordArguments table dialect options := by
  unfold ClassBlock.items classOf tableArgs
  dsimp only
  generalize constraintArguments table dialect options ++ indexArguments table options ++
    keywordArguments table dialect options = items
  cases items with
  | nil => rfl
  | cons item items => rfl

/-- The lines of a block stand together in the text of its module. -/
theorem Style.infix_linesOf_generate [Holding] (style : Style) (schema : Schema) (options : Options)
    {lines : List String} (h : lines ∈ (style.toModule schema options).blocks) :
    lines.map String.toList <:+: linesOf (generate style schema options).output.toList := by
  have hlines : linesOf (generate style schema options).output.toList =
      (style.toModule schema options).lines.map String.toList :=
    Module.linesOf_render (style.isSection_of_mem_sections schema options)
  rw [hlines]
  exact (infix_intercalate_sections
    (List.mem_cons_of_mem _ (List.mem_cons_of_mem _ h))).map String.toList

/-- Every table has an assignment. -/
theorem TableObjects.exists_assignment {schema : Schema} (options : Options) {table : Table}
    (h : table ∈ schema.tables) :
    ∃ name, (table, blockOf schema.dialect options table name) ∈
      (Dependency.sortTables schema.tables).zip (blocks schema options) := by
  have hsorted : table ∈ Dependency.sortTables schema.tables :=
    (Dependency.sortTables_perm schema.tables).mem_iff.2 h
  obtain ⟨name, hpair⟩ := exists_mem_zip (length_variableNames _) hsorted
  exact ⟨name, mem_zip_zipWith_iff.2 ⟨name, hpair, rfl⟩⟩

/-- The class of every table stands in one text, its assignment in the other, and they are as the
relation says. -/
def Schema.WrittenAs [Holding] (schema : Schema) (options : Options)
    (r : Table → ClassBlock → TableBlock → Prop) : Prop :=
  List.Forall₂ (fun table block =>
      block.lines.map String.toList <:+:
          linesOf (generate .declarative schema options).output.toList ∧
        ∃ assignment, (table, assignment) ∈
            (Dependency.sortTables schema.tables).zip (TableObjects.blocks schema options) ∧
          assignment.lines.map String.toList <:+:
            linesOf (generate .tables schema options).output.toList ∧
          r table block assignment)
    schema.tables (Declarative.classes schema options)

/-- What the class and the assignment of each table have under any names, the two texts have. -/
theorem Schema.writtenAs [Holding] (schema : Schema) (options : Options)
    {r : Table → ClassBlock → TableBlock → Prop}
    (h : ∀ table ∈ schema.tables, ∀ name variableName,
      r table (Declarative.classOf schema.dialect options table name)
        (TableObjects.blockOf schema.dialect options table variableName)) :
    schema.WrittenAs options r := by
  have hlength := (Declarative.length_classes schema options).symm
  refine List.forall₂_iff_zip.2 ⟨hlength, fun {table block} hpair => ?_⟩
  obtain ⟨hblock, htable⟩ := And.comm.1 (List.of_mem_zip hpair)
  obtain ⟨name, _, rfl⟩ := mem_zip_zipWith_iff.1 hpair
  obtain ⟨variableName, hassignment⟩ := TableObjects.exists_assignment options htable
  refine ⟨?_, _, hassignment, ?_, h table htable name variableName⟩
  · exact Style.infix_linesOf_generate .declarative schema options (List.mem_map_of_mem hblock)
  · exact Style.infix_linesOf_generate .tables schema options
      (List.mem_map_of_mem (List.of_mem_zip hassignment).2)

end SchemaCodegen
