/-!
# Quotes and parentheses in SQL expressions

A single quote begins a literal and the next one ends it; a quote written twice inside a literal
ends it and begins another at once, which comes to the same. Parentheses count outside literals
only. An expression is balanced when no parenthesis closes that was not opened, and at its end no
literal and no parenthesis is open.
-/

namespace SchemaCodegen.ServerDefault

/-- How far a scan is inside literals and parentheses. -/
structure Balance where
  /-- Whether a literal is open. -/
  quoted : Bool := false
  /-- How many parentheses are open. -/
  depth : Nat := 0
  deriving DecidableEq, Repr

namespace Balance

/-- Whether neither a literal nor a parenthesis is open. -/
def isOuter (b : Balance) : Bool :=
  !b.quoted && b.depth == 0

/-- The balance after one more character; there is none after a parenthesis that closes too
much. -/
def step (b : Balance) (c : Char) : Option Balance :=
  if c = '\'' then some { b with quoted := !b.quoted }
  else if b.quoted then some b
  else if c = '(' then some { b with depth := b.depth + 1 }
  else if c = ')' then
    match b.depth with
    | 0 => none
    | depth + 1 => some { b with depth := depth }
  else some b

/-- The balance after a whole text. -/
def scan (b : Balance) : List Char → Option Balance
  | [] => some b
  | c :: rest =>
    match b.step c with
    | none => none
    | some next => next.scan rest

/-- A text is scanned part after part. -/
theorem scan_append (b : Balance) (xs ys : List Char) :
    b.scan (xs ++ ys) = (b.scan xs).bind fun next => next.scan ys := by
  induction xs generalizing b with
  | nil => rfl
  | cons c xs ih =>
    rw [List.cons_append, scan, scan]
    cases b.step c with
    | none => rfl
    | some next => exact ih next

end Balance

/-- Whether the expression is balanced. -/
def isBalanced (cs : List Char) : Bool :=
  match Balance.scan {} cs with
  | none => false
  | some b => b.isOuter

end SchemaCodegen.ServerDefault
