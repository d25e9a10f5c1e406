import SchemaCodegen.Document
import SchemaCodegen.Yaml.Base64
import SchemaCodegen.Yaml.Number
import SchemaCodegen.Yaml.Timestamp

/-!
# Kinds of nodes

A node is of the kind that its tag names; a plain scalar without a tag is of the kind whose form its
text has. Two plain texts stand for something in a mapping rather than for a value: one merges
further mappings into it, the other is the key of a value that stands for the whole.
-/

namespace SchemaCodegen.Yaml

open SchemaCodegen.Text

/-- The kind of a node. -/
inductive Kind where
  /-- No value. -/
  | null
  /-- A truth value. -/
  | truth
  /-- A whole number. -/
  | integer
  /-- A number with a fraction. -/
  | fraction
  /-- A date, with or without a time. -/
  | timestamp
  /-- A text. -/
  | text
  /-- Bytes. -/
  | binary
  /-- A list. -/
  | list
  /-- A mapping. -/
  | mapping
  /-- A set: the keys of a mapping. -/
  | set
  /-- A mapping whose entries are kept as a list of pairs: a list of mappings of one entry each. -/
  | pairs
  /-- The key whose value is merged into a mapping. -/
  | merge
  /-- The key of a value that stands for a mapping. -/
  | standIn
  /-- A kind that no value has. -/
  | unknown
  deriving DecidableEq, Repr

namespace Kind

/-- What every tag of a known kind begins with. -/
def tagStart : String :=
  "tag:yaml.org,2002:"

/-- The known kinds by the rest of their tags. -/
def tagNames : List (String × Kind) :=
  [("null", null), ("bool", truth), ("int", integer), ("float", fraction),
    ("timestamp", timestamp), ("str", text), ("binary", binary), ("seq", list), ("map", mapping),
    ("set", set), ("omap", pairs), ("pairs", pairs), ("merge", merge), ("value", standIn)]

/-- The kind that a tag names. -/
def ofTag (tag : String) : Kind :=
  ((tagNames.find? fun named => tagStart ++ named.1 == tag).map (·.2)).getD unknown

/-- Whether values of a kind hold further values. -/
def isCollection (kind : Kind) : Bool :=
  kind == list || kind == mapping || kind == set || kind == pairs

/-- The words for truth values in small letters, each with its value. -/
def truthWords : List (String × Bool) :=
  [("yes", true), ("no", false), ("true", true), ("false", false), ("on", true), ("off", false)]

/-- Whether a text is a word in small letters, in capital letters, or in small ones after a
capital. -/
def isSpelling (word cs : List Char) : Bool :=
  cs == word || cs == word.map Char.toUpper ||
    cs == (word.take 1).map Char.toUpper ++ word.drop 1

/-- Whether a plain text stands for no value. -/
def isNullWord (cs : List Char) : Bool :=
  cs.isEmpty || cs == ['~'] || isSpelling "null".toList cs

/-- The kind that a plain text has by its form; a line feed at its end does not count, unless it is
all of the text. -/
def ofPlain (plain : String) : Kind :=
  let cs := if plain == "\n" then plain.toList else dropLineFeed plain.toList
  if truthWords.any fun word => isSpelling word.1.toList cs then truth
  else if isFractional cs then fraction
  else if isInteger cs then integer
  else if cs == ['<', '<'] then merge
  else if isNullWord cs then null
  else if isTimestamp cs then timestamp
  else if cs == ['='] then standIn
  else if cs == ['!'] || cs == ['&'] || cs == ['*'] then unknown
  else text

/-- The kind of a scalar with the given tag: one mark alone asks for the form, and so does a plain
scalar without a tag. -/
def ofScalar (tag : Option String) (written : String) (plain : Bool) : Kind :=
  match tag with
  | none => if plain then ofPlain written else text
  | some tag => if tag == "!" then ofPlain written else ofTag tag

/-- The kind of a list or mapping with the given tag. -/
def ofCollection (tag : Option String) (usual : Kind) : Kind :=
  match tag with
  | none => usual
  | some tag => if tag == "!" then usual else ofTag tag

end Kind

/-- The truth value that a text stands for. -/
def readTruth (text : String) : Except Flaw Bool :=
  let word := lower text
  match Kind.truthWords.lookup word with
  | some value => .ok value
  | none => .error (.breakdown (.noTruthWord word))

/-- The bytes that a text stands for. -/
def readBytes (text : String) : Except Flaw (List UInt8) :=
  if text.toList.any (128 ≤ ·.toNat) then .error .malformed
  else
    match Base64.decode text.toList with
    | some bytes => .ok bytes
    | none => .error .malformed

/-- The value that a text of a kind stands for. -/
def scalarValue (kind : Kind) (text : String) : Except Flaw Document :=
  match kind with
  | .null => .ok .null
  | .text => .ok (.text text)
  | .truth => (readTruth text).map Document.truth
  | .integer => (readInteger text).map Document.int
  | .fraction => (readFraction text).map Document.float
  | .timestamp => (readTimestamp text).map Document.moment
  | .binary => (readBytes text).map Document.bytes
  | _ => .error .malformed

end SchemaCodegen.Yaml
