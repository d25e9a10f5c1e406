import SchemaCodegen.Yaml.Cell
import SchemaCodegen.Yaml.Flaw

/-!
# Scanning

Short constructs of a YAML text are read from left to right by small steps. A step looks at the
characters that are left, may take some of them, and may find the text malformed.
-/

namespace SchemaCodegen.Yaml

/-- What is left of a text while it is scanned. -/
structure Unread where
  /-- The characters that are left. -/
  cells : List Cell
  /-- How many characters were taken. -/
  taken : Nat := 0

/-- A step of a scan. -/
abbrev Scan (α : Type) := StateT Unread (Except Flaw) α

namespace Scan

/-- The text is malformed. -/
def malformed {α : Type} : Scan α :=
  throw .malformed

/-- What is left. -/
def left : Scan (List Cell) := do
  return (← get).cells

/-- The next character. -/
def next? : Scan (Option Char) := do
  return (← left).head?.map Cell.char

/-- Takes so many characters. -/
def skip (count : Nat) : Scan Unit :=
  modify fun unread => ⟨unread.cells.drop count, unread.taken + count⟩

/-- Takes the characters of a class. -/
def takeWhile (p : Char → Bool) : Scan (List Char) := do
  let found := (← left).takeWhile fun cell => p cell.char
  skip found.length
  return charsOf found

/-- Takes the given character, which has to come next. -/
def expect (c : Char) : Scan Unit := do
  if (← next?) == some c then skip 1 else malformed

/-- The text has to go on as the given test says. -/
def require (test : List Cell → Bool) : Scan Unit := do
  unless test (← left) do malformed

/-- The result of a scan and the number of characters it took. -/
def run {α : Type} (scan : Scan α) (cells : List Cell) : Except Flaw (α × Nat) :=
  match StateT.run scan ⟨cells, 0⟩ with
  | .error flaw => .error flaw
  | .ok (value, unread) => .ok (value, unread.taken)

end Scan

end SchemaCodegen.Yaml
