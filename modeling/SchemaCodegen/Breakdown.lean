import SchemaCodegen.Schema.Basic
import SchemaCodegen.Text.Listing

/-!
# Breakdowns

Most of what goes wrong is told as a fault of the schema or ends with an exit code. A few values are
beyond what the program can hold, go through or write at all. Such a value breaks the run off: there
is no exit code, and only the words that say what was met.

Lists inside lists, arrays of arrays and directories inside directories are gone through by calls
inside calls, and there is room for so many calls only. How many fit is no matter of the program, so
the room is given to a run from outside, as its files are.
-/

namespace SchemaCodegen

open SchemaCodegen.Text

/-! ## Room for nesting -/

/-- What the type of a column is made for. -/
inductive TypeUse where
  /-- The findings about a schema. -/
  | finding
  /-- The attribute of a class. -/
  | attribute
  /-- The column of a table object. -/
  | tableColumn
  deriving DecidableEq, Repr

/-- How deep things may lie inside each other. -/
structure Room where
  /-- How many lists and mappings of a JSON text. -/
  json : Nat := 988
  /-- How many lists and mappings of a YAML text. -/
  yaml : Nat := 488
  /-- How many arrays in the type of a column. -/
  arrays : TypeUse → Column → Nat := fun _ _ => 985
  /-- How many new directories. -/
  directories : Nat := 985

/-! ## What breaks a run off -/

variable [Holding]

/-- What may lie too deep inside each other. -/
inductive Nesting where
  /-- The lists of a JSON text. -/
  | jsonList
  /-- The mappings of a JSON text. -/
  | jsonMapping
  /-- The nodes of a YAML text. -/
  | yamlNode
  /-- The arrays in the type of a column. -/
  | arrayType
  /-- The new directories of a path. -/
  | directory
  deriving DecidableEq, Repr

/-- What was done when the nesting became too deep, in words. -/
def Nesting.activity : Nesting → String
  | jsonList => "decoding a JSON array from a unicode string"
  | jsonMapping => "decoding a JSON object from a unicode string"
  | yamlNode => "calling a Python object"
  | arrayType => "calling a Python object"
  | directory => "calling a Python object"

/-- What breaks a run off. -/
inductive Breakdown where
  /-- A code is too large for a signed word of 32 bits. -/
  | codeTooLarge
  /-- A whole number is too large for a number with a fraction. -/
  | numberTooLarge
  /-- A number has no first character. -/
  | noFirstCharacter
  /-- A word stands for no truth value. -/
  | noTruthWord (word : String)
  /-- A text is not written as a date. -/
  | noDateText
  /-- A mapping is called a date. -/
  | dateOfMapping
  /-- Things lie too deep inside each other. -/
  | tooDeep (nesting : Nesting)
  /-- A path has a zero among its characters. -/
  | zeroInPath
  /-- A name is too long to be looked up. -/
  | nameTooLong (path : String)
  /-- Halves that stand alone cannot be written to a file. -/
  | loneHalves (position : Nat) (halves : List Nat)
  /-- The name of the style is missing after its switch. -/
  | noStyleName
  deriving DecidableEq, Repr

namespace Breakdown

/-- The place of some halves in words. -/
def describeHalves (position : Nat) : List Nat → String
  | [half] =>
    "character '" ++ String.ofList (showCode half) ++ "' in position " ++ toString position
  | halves =>
    "characters in position " ++ toString position ++ "-" ++
      toString (position + halves.length - 1)

/-- The breakdown in words. -/
def message : Breakdown → String
  | codeTooLarge => "Python int too large to convert to C int"
  | numberTooLarge => "int too large to convert to float"
  | noFirstCharacter => "string index out of range"
  | noTruthWord word => showText word
  | noDateText => "'NoneType' object has no attribute 'groupdict'"
  | dateOfMapping => "expected string or bytes-like object, got 'list'"
  | tooDeep nesting => "maximum recursion depth exceeded while " ++ nesting.activity
  | zeroInPath => "embedded null byte"
  | nameTooLong path => "[Errno 36] File name too long: " ++ showText path
  | loneHalves position halves =>
    "'utf-8' codec can't encode " ++ describeHalves position halves ++ ": surrogates not allowed"
  | noStyleName => "'list' object has no attribute 'strip'"

end Breakdown

end SchemaCodegen
