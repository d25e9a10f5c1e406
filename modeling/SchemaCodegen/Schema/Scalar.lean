import SchemaCodegen.Document
import SchemaCodegen.Schema.Checked
import SchemaCodegen.Text.Blank
import SchemaCodegen.Text.Digits
import SchemaCodegen.Text.Half
import SchemaCodegen.Text.Utf8

/-!
# Simple values of a schema document

How the fields of a schema take their values. Texts are taken as they are, and bytes as the text
that they spell. A whole number may be written as a number without a fraction, as a truth value or
as a text; a truth value as a number or as a word. Which spellings count is stated by `readIntText?`
and `truthWords`. Where a text is looked into, halves of pairs have no place in it.
-/

namespace SchemaCodegen.Schema

open SchemaCodegen.Number SchemaCodegen.Text

variable [Holding]

/-! ## Texts -/

/-- The text that bytes spell. -/
def readBytes (unreadable : Cause) (bytes : List UInt8) : Checked String :=
  match Utf8.decode bytes with
  | .ok cs => .ok (String.ofList cs)
  | .error _ => .fail unreadable

/-- Any text. -/
def readText : Document → Checked String
  | .text value => .ok value
  | .bytes bytes => readBytes .notUnicode bytes
  | _ => .fail .notText

/-- A text without half a pair by itself. -/
def readWhole (value : String) : Checked String :=
  if hasLoneHalf value then .fail .notUnicode else .ok value

/-- A text that is looked into, if the document is one; `unreadable` is told of bytes that are no
text. -/
def innerText? (unreadable : Cause) : Document → Option (Checked String)
  | .text value => some (readWhole value)
  | .bytes bytes => some (readBytes unreadable bytes)
  | _ => none

/-- A text with at least one character. -/
def readName (document : Document) : Checked String :=
  ((readText document).andThen readWhole).andThen fun value =>
    if value.isEmpty then .fail .emptyText else .ok value

/-! ## Whole numbers -/

/-- The longest text, in bytes, that is read as a number. -/
def maxNumberBytes : Nat := 4300

/-- The digits of a text of digits with single underscores between them; `afterDigit` says that the
text goes on after a digit. -/
def digitsAfter? (afterDigit : Bool) : List Char → Option (List Char)
  | [] => if afterDigit then some [] else none
  | c :: rest =>
    if c.isDigit then (digitsAfter? true rest).map (c :: ·)
    else if c == '_' && afterDigit then digitsAfter? false rest
    else none

/-- The text without a point and the zeros after it, if it ends so. -/
def dropZeroFraction (cs : List Char) : List Char :=
  let zeros := (cs.reverse.takeWhile (· == '0')).length
  let rest := cs.reverse.drop zeros
  match zeros, rest with
  | _ + 1, '.' :: more => more.reverse
  | _, _ => cs

/-- The whole number that a text stands for: an optional sign, digits with single underscores
between them, and optionally a point with zeros after it, all with white space around it. -/
def readIntText? (text : String) : Option Int :=
  let (negative, body) := splitSign (trimWith isWhiteSpace text.toList)
  (digitsAfter? false (dropZeroFraction body)).map fun digits =>
    Binary64.signed negative (decimalNumber digits)

/-- The first whole number that does not fit into a signed word of 64 bits. -/
def wordBound : Nat := Nat.pow 2 63

/-- Whether the absolute value fits into 63 bits. -/
def fitsWord (n : Int) : Bool :=
  n.natAbs < wordBound

/-- The whole number that a text is. -/
def readIntText (text : String) : Checked Int :=
  if maxNumberBytes < text.utf8ByteSize then .fail .oversizedInt
  else
    match readIntText? text with
    | some n => .ok n
    | none => .fail .unreadableInt

/-- A whole number. -/
def readInt : Document → Checked Int
  | .int value => .ok value
  | .truth value => .ok (if value then 1 else 0)
  | .float value =>
    if !value.isFinite then .fail .notFinite
    else
      match value.toInt? with
      | none => .fail .fractional
      | some n => if fitsWord n then .ok n else .fail .oversizedInt
  | document =>
    match innerText? .unreadableInt document with
    | some text => text.andThen readIntText
    | none => .fail .notInt

/-- A whole number that is at least the given bound. -/
def readIntFrom (bound : Int) (document : Document) : Checked Int :=
  (readInt document).andThen fun n => if n < bound then .fail (.below bound) else .ok n

/-! ## Truth values -/

/-- The words for truth values, in small letters. -/
def truthWords : List (String × Bool) :=
  [("0", false), ("off", false), ("f", false), ("false", false), ("n", false), ("no", false),
    ("1", true), ("on", true), ("t", true), ("true", true), ("y", true), ("yes", true)]

/-- The truth value of a whole number. -/
def truthOfInt (n : Int) : Checked Bool :=
  if n == 0 then .ok false
  else if n == 1 then .ok true
  else if fitsWord n || n == -(wordBound : Int) then .fail .unreadableTruth
  else .fail .notTruth

/-- The truth value that a text is. -/
def readTruthText (text : String) : Checked Bool :=
  match truthWords.lookup (String.ofList (text.toList.map Char.toLower)) with
  | some truth => .ok truth
  | none => .fail .unreadableTruth

/-- A truth value. -/
def readTruth : Document → Checked Bool
  | .truth value => .ok value
  | .int value => truthOfInt value
  | .float value =>
    match value.toInt? with
    | some n => if fitsWord n then truthOfInt n else .fail .notTruth
    | none => .fail .notTruth
  | document =>
    match innerText? .unreadableTruth document with
    | some text => text.andThen readTruthText
    | none => .fail .notTruth

/-! ## Lists, names and absent values -/

/-- A list of items of one kind, which may be given as a set. -/
def readList {α : Type} (read : Document → Checked α) : Document → Checked (List α)
  | .list documents => Checked.items read 0 documents
  | .set documents => Checked.items read 0 documents
  | _ => .fail .notList

/-- A list with at least one item. -/
def readFilledList {α : Type} (read : Document → Checked α) (document : Document) :
    Checked (List α) :=
  (readList read document).andThen fun values =>
    if values.isEmpty then .fail .emptyList else .ok values

/-- One of several values, by its name. -/
def findNamed {α : Type} (values : List α) (name : α → String) (text : String) : Checked α :=
  match values.find? fun value => name value == text with
  | some value => .ok value
  | none => .fail (.notOneOf (values.map name))

/-- One of several values, each of which has a name. -/
def readOneOf {α : Type} (values : List α) (name : α → String) (document : Document) : Checked α :=
  match innerText? (.notOneOf (values.map name)) document with
  | some text => text.andThen (findNamed values name)
  | none => .fail (.notOneOf (values.map name))

/-- A value that may be absent. -/
def readNullable {α : Type} (read : Document → Checked α) : Document → Checked (Option α)
  | .null => .ok none
  | document => (read document).map some

end SchemaCodegen.Schema
