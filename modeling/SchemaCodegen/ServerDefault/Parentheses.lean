import SchemaCodegen.ServerDefault.Balance
import SchemaCodegen.Text.Blank

/-!
# Outer parentheses

SQL Server reports a default wrapped in parentheses (`((0))`), which are left out of generated code.
A pair wraps an expression when the parenthesis at its start is closed by the one at its end, as in
`(a + b)` and unlike `(a) + (b)`.
-/

namespace SchemaCodegen.ServerDefault

open SchemaCodegen.Text

/-- Whether the first character that closes all open parentheses is the last of the text. -/
def closesAtEnd (b : Balance) : List Char → Bool
  | [] => false
  | c :: rest =>
    match b.step c with
    | none => false
    | some next =>
      if c = ')' ∧ next.isOuter then rest.isEmpty else closesAtEnd next rest

/-- Whether one pair of parentheses wraps the whole expression. -/
def isWrapped (cs : List Char) : Bool :=
  cs.head? == some '(' && closesAtEnd {} cs

/-- The text between the first character and the last. -/
def inner (cs : List Char) : List Char :=
  (cs.drop 1).dropLast

/-- The expression without the pairs of parentheses that wrap it, at most the given number of
them. -/
def unwrap : Nat → List Char → List Char
  | 0, cs => cs
  | n + 1, cs => if isWrapped cs then unwrap n (strip (inner cs)) else cs

/-- The expression without blanks around it and without the parentheses that wrap it. Every pair
takes two characters, so there are no more of them than characters. -/
def stripParensOf (cs : List Char) : List Char :=
  unwrap cs.length (strip cs)

/-- The expression without blanks around it and without the parentheses that wrap it. -/
def stripParens (expression : String) : String :=
  String.ofList (stripParensOf expression.toList)

end SchemaCodegen.ServerDefault
