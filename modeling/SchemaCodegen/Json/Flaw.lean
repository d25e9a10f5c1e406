import SchemaCodegen.Breakdown
import SchemaCodegen.Text.Digits

/-!
# Flaws of a JSON text

What can be wrong with a JSON text, where, and the words for it. Positions count code points from
zero; a message gives the line and the column as well, both counted from one.
-/

namespace SchemaCodegen.Json

/-- What is wrong at a place of a JSON text. -/
inductive Cause where
  /-- The text begins with a byte order mark. -/
  | byteOrderMark
  /-- No value begins here. -/
  | noValue
  /-- No property name begins here. -/
  | noName
  /-- No colon follows the property name. -/
  | noColon
  /-- Neither a comma nor the end of the list or mapping follows the value. -/
  | noComma
  /-- Something follows the document. -/
  | extraData
  /-- A string that begins here has no end. -/
  | unterminated
  /-- A string holds a control character. -/
  | controlCharacter
  /-- A backslash begins no escape. -/
  | badEscape
  /-- Four hexadecimal digits are missing. -/
  | badCode
  deriving DecidableEq, Repr

/-- The words for a cause. -/
def Cause.message : Cause → String
  | byteOrderMark => "Unexpected UTF-8 BOM (decode using utf-8-sig)"
  | noValue => "Expecting value"
  | noName => "Expecting property name enclosed in double quotes"
  | noColon => "Expecting ':' delimiter"
  | noComma => "Expecting ',' delimiter"
  | extraData => "Extra data"
  | unterminated => "Unterminated string starting at"
  | controlCharacter => "Invalid control character at"
  | badEscape => "Invalid \\escape"
  | badCode => "Invalid \\uXXXX escape"

/-- A flaw of a JSON text. -/
inductive Flaw where
  /-- A cause at a position. -/
  | badAt (cause : Cause) (position : Nat)
  /-- A whole number with too many digits. -/
  | tooManyDigits (count : Nat)
  /-- Something that breaks the run off. -/
  | breakdown (cause : Breakdown)
  deriving DecidableEq, Repr

/-- The words for a number with too many digits. -/
def tooManyDigitsMessage (count : Nat) : String :=
  "Exceeds the limit (" ++ toString Text.maxDigits ++ " digits) for integer string conversion: " ++
    "value has " ++ toString count ++
    " digits; use sys.set_int_max_str_digits() to increase the limit"

/-- A position of a text in words. -/
def describePosition (text : List Char) (position : Nat) : String :=
  let before := text.take position
  let line := before.count '\n' + 1
  let column := (before.reverse.takeWhile (· != '\n')).length + 1
  "line " ++ toString line ++ " column " ++ toString column ++ " (char " ++ toString position ++ ")"

end SchemaCodegen.Json
