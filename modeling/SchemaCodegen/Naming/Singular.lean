import SchemaCodegen.Text.Case

/-!
# Singular forms

A rough English singular, good enough for class names. A list of irregular plurals comes first, then
rules by ending, of which the first that applies decides. Words that only look plural (`status`,
`address`, `analysis`) stay as they are.
-/

namespace SchemaCodegen.Naming

open SchemaCodegen.Text

/-- Irregular plurals of table names with their singulars. -/
def irregularPlurals : List (String × String) :=
  [("people", "person"), ("children", "child"), ("men", "man"), ("women", "woman"),
    ("mice", "mouse"), ("geese", "goose"), ("teeth", "tooth"), ("feet", "foot"),
    ("data", "datum"), ("indices", "index"), ("matrices", "matrix"), ("vertices", "vertex"),
    ("axes", "axis"), ("crises", "crisis"), ("analyses", "analysis"), ("statuses", "status"),
    ("addresses", "address")]

/-- The word with its first letter made a capital. -/
def capitalFirst : List Char → List Char
  | [] => []
  | c :: rest => c.toUpper :: rest

/-- What a rule does to a word: it drops so many characters from the end and adds an ending. -/
structure EndingRule where
  /-- The endings that the rule applies to. -/
  endings : List String
  /-- The rule applies to longer words only. -/
  longerThan : Nat
  /-- How many characters it drops from the end. -/
  dropped : Nat
  /-- What it adds in their place. -/
  added : String

/-- The rules by ending, in the order in which they are tried. -/
def endingRules : List EndingRule :=
  [⟨["ss", "us", "is"], 0, 0, ""⟩, ⟨["ies"], 3, 3, "y"⟩, ⟨["ves"], 0, 3, "f"⟩,
    ⟨["oes"], 3, 2, ""⟩, ⟨["sses", "xes", "zes", "ches", "shes"], 0, 2, ""⟩, ⟨["s"], 0, 1, ""⟩]

/-- Whether the rule applies to a word of the given length, told by its form in small letters. -/
def EndingRule.applies (rule : EndingRule) (size : Nat) (small : List Char) : Bool :=
  rule.longerThan < size && rule.endings.any fun ending => ending.toList.isSuffixOf small

/-- The word that the rule makes. -/
def EndingRule.apply (rule : EndingRule) (word : List Char) : List Char :=
  word.take (word.length - rule.dropped) ++ rule.added.toList

/-- Whether the text begins with a capital. -/
def startsUpper : List Char → Bool
  | [] => false
  | c :: _ => c.isUpper

/-- The singular of a word. -/
def singularOf (word : List Char) : List Char :=
  let small := lowerAfter false word
  match irregularPlurals.lookup (String.ofList small) with
  | some singular =>
    if startsUpper word then capitalFirst singular.toList else singular.toList
  | none =>
    match endingRules.find? (·.applies word.length small) with
    | some rule => rule.apply word
    | none => word

/-- The singular of a word. -/
def singular (word : String) : String :=
  String.ofList (singularOf word.toList)

end SchemaCodegen.Naming
