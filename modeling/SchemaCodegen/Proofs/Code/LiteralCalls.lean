import SchemaCodegen.Code.Vocabulary
import SchemaCodegen.Proofs.Text.Literal

/-!
# Proofs: calls with literals for arguments

A call whose arguments are literals, with keyword arguments behind them, tells the texts of the
literals and the keywords, whatever quotes, commas and brackets the texts hold.
-/

namespace SchemaCodegen.Code

open SchemaCodegen.Code.Vocabulary SchemaCodegen.Text

namespace Expr

theorem render_call (callee : Symbol) (args : List Expr) :
    (call callee args).render = callee.render ++ "(" ++ commaSeparated (args.map render) ++ ")" := by
  rw [render, renderAll_eq_map]

theorem render_call_inj {callee : Symbol} {args others : List Expr} :
    (call callee args).render = (call callee others).render ↔
      commaSeparated (args.map render) = commaSeparated (others.map render) := by
  rw [render_call, render_call, String.append_left_inj, String.append_right_inj]

theorem map_render_literals (texts : List String) :
    (literals texts).map render = texts.map quote := by
  rw [literals, List.map_map]
  exact List.map_congr_left fun text _ => by rw [Function.comp_apply, render]

/-- A call tells the literals at the beginning of its arguments, and what the rest of the arguments
is made of, if none of the rest begins as a literal does. -/
theorem render_call_literals_inj {callee : Symbol} {texts others : List String}
    {tail otherTail : List Expr} (htail : ∀ e ∈ tail, ¬BeginsLiteral e.render)
    (hother : ∀ e ∈ otherTail, ¬BeginsLiteral e.render)
    (h : (call callee (literals texts ++ tail)).render =
      (call callee (literals others ++ otherTail)).render) :
    texts = others ∧
      commaSeparated (tail.map render) = commaSeparated (otherTail.map render) := by
  rw [render_call_inj, List.map_append, List.map_append, map_render_literals,
    map_render_literals] at h
  exact commaSeparated_quote_inj (List.forall_mem_map.2 htail) (List.forall_mem_map.2 hother) h

theorem render_named (name : String) : (named name).render = "name=" ++ quote name := by
  rw [named, render, render]
  rfl

theorem not_beginsLiteral_named (name : String) : ¬BeginsLiteral (named name).render := by
  rw [render_named, BeginsLiteral, String.toList_append]
  simp

theorem render_call_named_inj {callee : Symbol} {texts others : List String}
    {name other : String} :
    (call callee (literals texts ++ [named name])).render =
        (call callee (literals others ++ [named other])).render ↔
      texts = others ∧ name = other := by
  constructor
  · intro h
    obtain ⟨htexts, hnames⟩ := render_call_literals_inj
      (List.forall_mem_singleton.2 (not_beginsLiteral_named name))
      (List.forall_mem_singleton.2 (not_beginsLiteral_named other)) h
    rw [List.map_singleton, List.map_singleton, commaSeparated, commaSeparated,
      String.intercalate_singleton, String.intercalate_singleton, render_named, render_named,
      String.append_right_inj, quote_injective.eq_iff] at hnames
    exact ⟨htexts, hnames⟩
  · rintro ⟨rfl, rfl⟩
    rfl

end Expr

end SchemaCodegen.Code
