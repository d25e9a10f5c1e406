import SchemaCodegen.Text.CaseTable

/-!
# Upper and lower case

Full case mapping: an image may have several characters, and a capital sigma becomes a final sigma
at the end of a word, that is, after a cased character and before none, with case-ignorable
characters passed over on both sides.
-/

namespace SchemaCodegen.Text

/-- The image of a code point under the first run that contains it. -/
def shiftBy (runs : List CaseRun) (n : Nat) : Nat :=
  match runs.find? (·.contains n) with
  | some run => (n + run.shift).toNat
  | none => n

/-- The image of a character beyond U+007F under an expansion table and a table of runs. -/
def mapCase (expansions : List (Nat × List Nat)) (runs : List CaseRun) (c : Char) : List Char :=
  match expansions.lookup c.toNat with
  | some codes => codes.map Char.ofNat
  | none => [Char.ofNat (shiftBy runs c.toNat)]

/-- The lower case of a character by itself. -/
def lowerChar (c : Char) : List Char :=
  if c.toNat < 128 then [c.toLower] else mapCase lowerExpansions lowerRuns c

/-- The upper case of a character by itself. -/
def upperChar (c : Char) : List Char :=
  if c.toNat < 128 then [c.toUpper] else mapCase upperExpansions upperRuns c

/-- Characters that have case. -/
def isCased (c : Char) : Bool :=
  if c.toNat < 128 then c.isAlpha else inRanges casedRanges c.toNat

/-- Characters that are passed over when looking for a cased neighbour. -/
def isCaseIgnorable (c : Char) : Bool :=
  if c.toNat < 128 then ['\'', '.', ':', '^', '\x60'].contains c
  else inRanges caseIgnorableRanges c.toNat

/-- Whether the next character that is not case-ignorable has case. -/
def casedNext (cs : List Char) : Bool :=
  match cs.dropWhile isCaseIgnorable with
  | [] => false
  | c :: _ => isCased c

/-- The lower case of the rest of a text; `cased` says whether the last character before it that is
not case-ignorable has case. -/
def lowerAfter (cased : Bool) : List Char → List Char
  | [] => []
  | c :: rest =>
    let image := if c == 'Σ' then [if cased && !casedNext rest then 'ς' else 'σ'] else lowerChar c
    image ++ lowerAfter (if isCaseIgnorable c then cased else isCased c) rest

/-- The lower case of a text. -/
def lower (text : String) : String :=
  String.ofList (lowerAfter false text.toList)

/-- The upper case of a text. -/
def upper (text : String) : String :=
  String.ofList (text.toList.flatMap upperChar)

end SchemaCodegen.Text
