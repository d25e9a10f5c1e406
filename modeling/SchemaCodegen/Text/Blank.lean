/-!
# Blank characters and trimming

A class of characters is given by a list of closed ranges of code points. White space is the Unicode
property `White_Space`. A blank is white space or one of the four information separators U+001C to
U+001F. Names, options and expressions are trimmed of blanks; numbers in text fields are trimmed of
white space. The zero width space and the byte order mark are neither.
-/

namespace SchemaCodegen.Text

/-- Whether the code point lies in one of the closed ranges. -/
def inRanges (ranges : List (Nat × Nat)) (n : Nat) : Bool :=
  ranges.any fun range => range.1 ≤ n && n ≤ range.2

/-- The characters with the property `White_Space`. -/
def isWhiteSpace (c : Char) : Bool :=
  inRanges [(0x09, 0x0D), (0x20, 0x20), (0x85, 0x85), (0xA0, 0xA0), (0x1680, 0x1680),
    (0x2000, 0x200A), (0x2028, 0x2029), (0x202F, 0x202F), (0x205F, 0x205F), (0x3000, 0x3000)]
    c.toNat

/-- White space and the information separators. -/
def isBlank (c : Char) : Bool :=
  isWhiteSpace c || inRanges [(0x1C, 0x1F)] c.toNat

/-- The text without the characters of a class at its start. -/
def trimStartWith (p : Char → Bool) (cs : List Char) : List Char :=
  cs.dropWhile p

/-- The text without the characters of a class at its end. -/
def trimEndWith (p : Char → Bool) (cs : List Char) : List Char :=
  (cs.reverse.dropWhile p).reverse

/-- The text without the characters of a class at either end. -/
def trimWith (p : Char → Bool) (cs : List Char) : List Char :=
  trimEndWith p (trimStartWith p cs)

/-- The text without blanks at its end. -/
def stripEnd (cs : List Char) : List Char :=
  trimEndWith isBlank cs

/-- The text without blanks at either end. -/
def strip (cs : List Char) : List Char :=
  trimWith isBlank cs

/-- The text without blanks at either end. -/
def stripText (text : String) : String :=
  String.ofList (strip text.toList)

end SchemaCodegen.Text
