/-!
# Characters with their places

The layout of a YAML text carries meaning, so every character is kept with the line and the column
where it stands. A line ends at a line feed, at U+0085, or at one of the separators U+2028 and
U+2029. A byte order mark takes no column.
-/

namespace SchemaCodegen.Yaml

/-- A character with its place; all three numbers count from zero. -/
structure Cell where
  /-- The character. -/
  char : Char
  /-- How many characters stand before it. -/
  index : Nat
  /-- How many lines stand before its line. -/
  line : Nat
  /-- How many columns stand before it in its line. -/
  column : Nat
  deriving DecidableEq, Repr

/-- Whether a character ends a line. -/
def isBreak (c : Char) : Bool :=
  c == '\n' || c == '\x85' || c == '\u2028' || c == '\u2029'

/-- Whether a character is a space or a tab. -/
def isSpace (c : Char) : Bool :=
  c == ' ' || c == '\t'

/-- What the end of a line stands for inside a text. -/
def breakMeaning (c : Char) : Char :=
  if c == '\x85' then '\n' else c

/-- Whether a character may stand in a text at all. -/
def isAllowed (c : Char) : Bool :=
  c == '\t' || c == '\n' || c == '\r' || c == '\x85' || (' ' ≤ c && c ≤ '~') ||
    ('\xA0' ≤ c && c ≤ '\uD7FF') || ('\uE000' ≤ c && c ≤ '\uFFFD') || '\uFFFF' < c

/-- The characters of a text with their places, the first of them at the given one. -/
def cellsFrom (index line column : Nat) : List Char → List Cell
  | [] => []
  | c :: rest =>
    ⟨c, index, line, column⟩ ::
      (if isBreak c then cellsFrom (index + 1) (line + 1) 0 rest
      else if c == '\ufeff' then cellsFrom (index + 1) line column rest
      else cellsFrom (index + 1) line (column + 1) rest)

/-- The characters of a text with their places. -/
def cells (text : List Char) : List Cell :=
  cellsFrom 0 0 0 text

/-- The characters of some cells. -/
def charsOf (cells : List Cell) : List Char :=
  cells.map Cell.char

/-- The characters are kept in order. -/
theorem charsOf_cellsFrom (index line column : Nat) (text : List Char) :
    charsOf (cellsFrom index line column text) = text := by
  induction text generalizing index line column with
  | nil => rfl
  | cons c rest ih =>
    rw [cellsFrom, charsOf, List.map_cons]
    congr 1
    split
    · exact ih ..
    · split <;> exact ih ..

/-- The characters of a text with their places are the text. -/
theorem charsOf_cells (text : List Char) : charsOf (cells text) = text :=
  charsOf_cellsFrom 0 0 0 text

/-- Whether a sign may end here: at a space, a tab, the end of a line or of the text. -/
def atGap : List Cell → Bool
  | [] => true
  | cell :: _ => isSpace cell.char || isBreak cell.char

/-- Whether a field may end here: as a sign may, but not at a tab. -/
def atFieldEnd : List Cell → Bool
  | [] => true
  | cell :: _ => cell.char == ' ' || isBreak cell.char

/-- Whether three of the given character and a gap come next. -/
def atTriple (c : Char) (cells : List Cell) : Bool :=
  charsOf (cells.take 3) == [c, c, c] && atGap (cells.drop 3)

/-- Whether a line that separates documents begins here. -/
def atSeparator (cells : List Cell) : Bool :=
  atTriple '-' cells || atTriple '.' cells

end SchemaCodegen.Yaml
