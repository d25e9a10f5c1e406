import SchemaCodegen.Text.Half
import SchemaCodegen.Text.Printable

/-!
# Quoted listings

Messages show a text in single quotes, or in double quotes when it holds a single quote and no
double one. Inside, the backslash and the enclosing quote are guarded by a backslash, and a
character that cannot be printed is shown by its code in hexadecimal digits: two, four or eight of
them. A list is shown between square brackets.
-/

namespace SchemaCodegen.Text

variable [Holding]

/-- A number in lower-case hexadecimal digits, filled up with zeros to the given width. -/
def hexDigits (width n : Nat) : List Char :=
  let digits := Nat.toDigits 16 n
  List.replicate (width - digits.length) '0' ++ digits

/-- A code in the escape that a listing shows it by. -/
def showCode (code : Nat) : List Char :=
  if code < 0x100 then '\\' :: 'x' :: hexDigits 2 code
  else if code < 0x10000 then '\\' :: 'u' :: hexDigits 4 code
  else '\\' :: 'U' :: hexDigits 8 code

/-- How a listing shows one character of a text enclosed by `mark`. -/
def showChar (mark c : Char) : List Char :=
  if c == mark || c == '\\' then ['\\', c]
  else if c == '\n' then ['\\', 'n']
  else if c == '\r' then ['\\', 'r']
  else if c == '\t' then ['\\', 't']
  else if isPrintable c then [c]
  else showCode (codeOf c)

/-- The quotes that enclose a text in a listing. -/
def listingMark (cs : List Char) : Char :=
  if cs.contains '\'' && !cs.contains '"' then '"' else '\''

/-- A text as a listing shows it. -/
def showText (text : String) : String :=
  let cs := text.toList
  let mark := listingMark cs
  String.ofList (mark :: cs.flatMap (showChar mark) ++ [mark])

/-- How a listing shows one byte. -/
def showByte (mark : Char) (byte : UInt8) : List Char :=
  if byte < 0x80 && (byte == 9 || byte == 10 || byte == 13 || (32 ≤ byte && byte < 127)) then
    showChar mark (Char.ofNat byte.toNat)
  else '\\' :: 'x' :: hexDigits 2 byte.toNat

/-- Bytes as a listing shows them. -/
def showBytes (bytes : List UInt8) : String :=
  let mark := listingMark (bytes.map fun byte => Char.ofNat byte.toNat)
  String.ofList ('b' :: mark :: bytes.flatMap (showByte mark) ++ [mark])

/-- Items that are already shown, between square brackets. -/
def bracketed (items : List String) : String :=
  "[" ++ String.intercalate ", " items ++ "]"

/-- A list of texts as messages show it. -/
def showTexts (texts : List String) : String :=
  bracketed (texts.map showText)

end SchemaCodegen.Text
