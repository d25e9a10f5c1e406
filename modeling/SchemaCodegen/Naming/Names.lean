import SchemaCodegen.Naming.Singular
import SchemaCodegen.Naming.Words
import SchemaCodegen.Text.IdentifierCharacter
import SchemaCodegen.Text.WordCharacter

/-!
# Names for tables and columns

A table gets a class name made of its words with capitals, or a variable name made of its own name
with separators replaced. A column keeps its name as an attribute where that is a usable identifier;
otherwise the name is repaired. Names of one scope are claimed one after another: a name that is
already taken gets underscores at its end, as few as make it free, and is taken from then on.
-/

namespace SchemaCodegen.Naming

open SchemaCodegen.Text

/-! ## Identifiers and keywords -/

/-- The keywords of the generated language. -/
def keywords : List String :=
  ["False", "None", "True", "and", "as", "assert", "async", "await", "break", "class", "continue",
    "def", "del", "elif", "else", "except", "finally", "for", "from", "global", "if", "import",
    "in", "is", "lambda", "nonlocal", "not", "or", "pass", "raise", "return", "try", "while",
    "with", "yield"]

/-- Whether the name is a keyword. -/
def isKeyword (name : String) : Bool :=
  keywords.contains name

/-- Whether the characters form an identifier. -/
def isIdentifierOf : List Char → Bool
  | [] => false
  | c :: rest => isIdentifierStart c && rest.all isIdentifierContinue

/-- Whether the name is an identifier; keywords are identifiers too. -/
def isIdentifier (name : String) : Bool :=
  isIdentifierOf name.toList

/-! ## Names made of other names -/

/-- A list of words with the last one in the singular. -/
def singularLast : List (List Char) → List (List Char)
  | [] => []
  | [word] => [singularOf word]
  | word :: words => word :: singularLast words

/-- The class name of a table: its words, each with a capital, set together. A name without words is
`Table`, and a `T` comes before a digit. -/
def className (table : String) (useSingular : Bool) : String :=
  let words := wordsOf table.toList
  let words := if useSingular then singularLast words else words
  match words.flatMap capitalFirst with
  | [] => "Table"
  | c :: rest => String.ofList (if c.isDigit then 'T' :: c :: rest else c :: rest)

/-- A text with an underscore in the place of every character that is not a word character. -/
def underscored (name : List Char) : List Char :=
  name.map fun c => if isWordChar c then c else '_'

/-- The variable name of a table. -/
def variableName (table : String) : String :=
  "t_" ++ String.ofList (underscored table.toList)

/-- Attribute names that the declarative base class uses itself. -/
def baseAttributes : List String :=
  ["metadata", "registry"]

/-- Names that cannot be attributes although they are identifiers. -/
def isReservedAttribute (name : String) : Bool :=
  isKeyword name || baseAttributes.contains name

/-- An underscore in front of a text that is empty or begins with a digit. -/
def guardStart : List Char → List Char
  | [] => ['_']
  | c :: rest => if isDigitChar c then '_' :: c :: rest else c :: rest

/-- The attribute name of a column. A usable identifier stays as it is. In any other name
underscores replace what is not a word character, an underscore comes before a digit, and one
follows a reserved name. -/
def attributeName (column : String) : String :=
  if isIdentifier column && !isReservedAttribute column then column
  else
    let repaired := String.ofList (guardStart (underscored column.toList))
    if isReservedAttribute repaired then repaired.push '_' else repaired

/-! ## Free names -/

/-- The name with as few underscores added as make it free, at most the given number of them. -/
def freeWithin : Nat → List String → String → String
  | 0, _, name => name
  | n + 1, taken, name =>
    if taken.contains name then freeWithin n taken (name.push '_') else name

/-- The name with as few underscores added as make it free. Among the name and its first
`taken.length` extensions one is free, because they are all different. -/
def freeName (taken : List String) (name : String) : String :=
  freeWithin taken.length taken name

/-- Claims a free form of each name in turn: the forms in order, and all names taken afterwards. -/
def claimAll (taken : List String) : List String → List String × List String
  | [] => ([], taken)
  | name :: names =>
    let free := freeName taken name
    let (frees, all) := claimAll (free :: taken) names
    (free :: frees, all)

/-- Each name gets one form. -/
theorem length_claimAll (taken names : List String) :
    (claimAll taken names).1.length = names.length := by
  induction names generalizing taken with
  | nil => rfl
  | cons name names ih => simp [claimAll, ih]

end SchemaCodegen.Naming
