import SchemaCodegen.Yaml.Folding

/-!
# Plain texts

A text without quotes ends before a sign that has a meaning of its own: a colon in front of a gap, a
number sign after one, and inside brackets a comma, a question mark or a bracket. It goes on in the
next line as long as that line is indented far enough.
-/

namespace SchemaCodegen.Yaml

/-- A plain text that was read. -/
structure PlainText where
  /-- The text. -/
  text : List Char
  /-- How many characters it takes with the gap after it. -/
  count : Nat
  /-- Whether the gap after it reaches over the end of a line. -/
  crossesLine : Bool
  deriving DecidableEq, Repr

/-- Whether a character has a meaning of its own inside brackets. -/
def isFlowSign (c : Char) : Bool :=
  c == ',' || c == '[' || c == ']' || c == '\x7b' || c == '\x7d'

/-- Whether a plain text ends before a character. -/
def endsPlain (inFlow : Bool) (c : Char) (rest : List Cell) : Bool :=
  isSpace c || isBreak c ||
    (c == ':' && (atGap rest || (inFlow && (charsOf (rest.take 1)).any isFlowSign))) ||
    (inFlow && (c == '?' || isFlowSign c))

/-- Whether a plain text ends before a character that follows a gap. -/
def endsPlainAfter (inFlow : Bool) (column : Nat) (gap : Gap) (cell : Cell) (rest : List Cell) :
    Bool :=
  endsPlain inFlow cell.char rest || (!gap.isNothing && cell.char == '#') ||
    (gap.crossesLine && !inFlow && cell.column < column)

/-- The characters of a plain text after a gap. A line of a block has to begin at the given column
or after it. -/
def readPlainFrom (inFlow : Bool) (column : Nat) : Gap → List Cell → PlainText
  | gap, [] => ⟨[], 0, gap.crossesLine⟩
  | gap, cell :: rest =>
    let c := cell.char
    if isBreak c then
      if atSeparator rest then ⟨[], 1, true⟩
      else
        let more := readPlainFrom inFlow column (gap.addBreak (breakMeaning c)) rest
        { more with count := more.count + 1 }
    else if c == ' ' then
      let more := readPlainFrom inFlow column (gap.addSpace c) rest
      { more with count := more.count + 1 }
    else if endsPlainAfter inFlow column gap cell rest then ⟨[], 0, gap.crossesLine⟩
    else
      let more := readPlainFrom inFlow column .nothing rest
      { more with text := gap.folded ++ c :: more.text, count := more.count + 1 }

/-- Reads a plain text. -/
def readPlain (inFlow : Bool) (column : Nat) (cells : List Cell) : PlainText :=
  readPlainFrom inFlow column .nothing cells

/-- The characters that begin no plain text, unless what follows allows it. -/
def signs : List Char :=
  ['-', '?', ':', ',', '[', ']', '\x7b', '\x7d', '#', '&', '*', '!', '|', '>', '\'', '"', '%', '@',
    '\x60']

/-- Whether a plain text begins with a character. -/
def startsPlain (inFlow : Bool) (c : Char) (rest : List Cell) : Bool :=
  (!isSpace c && !isBreak c && !signs.contains c) ||
    (!atGap rest && (c == '-' || (!inFlow && (c == '?' || c == ':'))))

end SchemaCodegen.Yaml
