import SchemaCodegen.Yaml.Cell
import SchemaCodegen.Yaml.Flaw

/-!
# Block texts

A block text begins with a header of one line: a sign that tells whether its lines are folded, and
optionally how far it is indented and what becomes of the ends of lines after its last line. The
lines below belong to it as long as they are indented far enough or blank.
-/

namespace SchemaCodegen.Yaml

/-- What becomes of the ends of lines after the last line of a block text. -/
inductive Chomping where
  /-- One of them is kept. -/
  | clip
  /-- None of them is kept. -/
  | strip
  /-- All of them are kept. -/
  | keep
  deriving DecidableEq, Repr

/-- What the header of a block text tells. -/
structure BlockHeader where
  /-- Whether lines are folded. -/
  folded : Bool
  /-- What becomes of the ends of lines at the end. -/
  chomping : Chomping := .clip
  /-- How far the text is indented beyond its surroundings, if the header tells. -/
  indentation : Option Nat := none
  deriving DecidableEq, Repr

/-- A line: its characters, and what its end stands for unless the text ends there. -/
structure Line where
  /-- The characters. -/
  text : List Char
  /-- What its end stands for. -/
  ending : Option Char
  deriving DecidableEq, Repr

/-- The lines of a text; the last one has no end. -/
def linesOf : List Char → List Line
  | [] => [⟨[], none⟩]
  | c :: rest =>
    if isBreak c then ⟨[], some (breakMeaning c)⟩ :: linesOf rest
    else
      match linesOf rest with
      | [] => [⟨[c], none⟩]
      | line :: lines => { line with text := c :: line.text } :: lines

namespace Line

/-- How many characters a line takes with its end. -/
def size (line : Line) : Nat :=
  line.text.length + if line.ending.isSome then 1 else 0

/-- How many spaces a line begins with. -/
def leading (line : Line) : Nat :=
  (line.text.takeWhile (· == ' ')).length

/-- Whether a line holds nothing but spaces. -/
def isBlank (line : Line) : Bool :=
  line.text.all (· == ' ')

end Line

/-! ## The header -/

/-- What a sign of a header says about the ends of lines. -/
def chompingOf? (c : Char) : Option Chomping :=
  if c == '+' then some .keep else if c == '-' then some .strip else none

/-- The header with what one of its signs says, if that was not said before. -/
def BlockHeader.add? (header : BlockHeader) (c : Char) : Option BlockHeader :=
  match chompingOf? c with
  | some chomping =>
    if header.chomping == .clip then some { header with chomping := chomping } else none
  | none =>
    if c.isDigit && c != '0' && header.indentation.isNone then
      some { header with indentation := some (c.toNat - 48) }
    else none

/-- Whether nothing but a comment is left of a header line after its signs. -/
def isHeaderRest (cs : List Char) : Bool :=
  match cs with
  | [] => true
  | c :: _ => c == ' ' && ((cs.dropWhile (· == ' ')).head?.all (· == '#'))

/-- Reads the signs of a header line. -/
def readHeader (header : BlockHeader) : List Char → Except Flaw BlockHeader
  | [] => .ok header
  | c :: rest =>
    match header.add? c with
    | some more => readHeader more rest
    | none => if isHeaderRest (c :: rest) then .ok header else .error .malformed

/-! ## The lines -/

/-- The deepest indentation among the blank lines at the front and the line after them. -/
def deepestLead : List Line → Nat
  | [] => 0
  | line :: lines =>
    if line.isBlank && line.ending.isSome then max line.leading (deepestLead lines)
    else line.leading

/-- The column where the lines of a block text begin, at least the given one. -/
def BlockHeader.column (header : BlockHeader) (least : Nat) (lines : List Line) : Nat :=
  match header.indentation with
  | some indentation => least + indentation - 1
  | none => max least (deepestLead lines)

/-- A line of a block text. -/
inductive BlockLine where
  /-- A blank line with its end. -/
  | blank (ending : Char)
  /-- A line with text, and its end unless the whole text ends there. -/
  | filled (text : List Char) (ending : Option Char)
  deriving DecidableEq, Repr

/-- The lines that belong to a block text whose lines begin at a column, and how many characters
they take. -/
def blockLines (column : Nat) : List Line → List BlockLine × Nat
  | [] => ([], 0)
  | line :: lines =>
    if line.isBlank && line.leading ≤ column then
      match line.ending with
      | none => ([], 0)
      | some ending =>
        let (more, count) := blockLines column lines
        (.blank ending :: more, count + line.size)
    else if column ≤ line.leading then
      let (more, count) := blockLines column lines
      (.filled (line.text.drop column) line.ending :: more, count + line.size)
    else ([], 0)

/-- The next line with text. -/
def nextFilled? : List BlockLine → Option (List Char)
  | [] => none
  | .blank _ :: lines => nextFilled? lines
  | .filled text _ :: _ => some text

/-- Whether a blank line comes next. -/
def blankFollows : List BlockLine → Bool
  | .blank _ :: _ => true
  | _ => false

/-- Whether a line begins with a space or a tab. -/
def startsWithSpace (text : List Char) : Bool :=
  text.head?.any isSpace

/-- What the end of a line stands for when a further line with text follows. A folded line that does
not begin with a space, before another such line, ends in a space, or in nothing if blank lines
stand between them. -/
def innerEnding (folded : Bool) (text : List Char) (ending : Option Char) (next : List Char)
    (blank : Bool) : List Char :=
  if folded && ending == some '\n' && !startsWithSpace text && !startsWithSpace next then
    if blank then [] else [' ']
  else ending.toList

/-- The text of the lines of a block text. -/
def blockText (header : BlockHeader) : List BlockLine → List Char
  | [] => []
  | .blank ending :: lines =>
    (if (nextFilled? lines).isSome || header.chomping == .keep then [ending] else []) ++
      blockText header lines
  | .filled text ending :: lines =>
    text ++
      (match nextFilled? lines with
      | some next => innerEnding header.folded text ending next (blankFollows lines)
      | none => if header.chomping == .strip then [] else ending.toList) ++
      blockText header lines

/-- Reads a block text after its first sign: the text, and how many characters it takes. Its lines
begin at the given column or after it. -/
def readBlock (folded : Bool) (least : Nat) (cells : List Cell) :
    Except Flaw (List Char × Nat) :=
  match linesOf (charsOf cells) with
  | [] => .error .malformed
  | first :: lines =>
    match readHeader { folded := folded } first.text with
    | .error flaw => .error flaw
    | .ok header =>
      let (found, count) := blockLines (header.column least lines) lines
      .ok (blockText header found, first.size + count)

end SchemaCodegen.Yaml
