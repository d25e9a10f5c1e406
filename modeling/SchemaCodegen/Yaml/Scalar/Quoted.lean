import SchemaCodegen.Text.Digits
import SchemaCodegen.Text.Half
import SchemaCodegen.Yaml.Flaw
import SchemaCodegen.Yaml.Folding

/-!
# Quoted texts

A text between single quotes stands for itself, two quotes for one. Between double quotes a
backslash begins an escape; one at the end of a line joins the line to the next. A quoted text is
first read into pieces, which tell characters that count from spaces and ends of lines, and then
folded.
-/

namespace SchemaCodegen.Yaml

open SchemaCodegen.Text

variable [Holding]

/-- A piece of a quoted text. -/
inductive Piece where
  /-- A character that counts. -/
  | kept (c : Char)
  /-- A space or a tab. -/
  | space (c : Char)
  /-- The end of a line. -/
  | lineBreak (c : Char)
  /-- The end of a line that is joined to the next. -/
  | joint
  deriving DecidableEq, Repr

/-- What a backslash and a sign stand for. -/
def escapeMeanings : List (Char × Char) :=
  [('0', '\x00'), ('a', '\x07'), ('b', '\x08'), ('t', '\t'), ('\t', '\t'), ('n', '\n'),
    ('v', '\x0b'), ('f', '\x0c'), ('r', '\r'), ('e', '\x1b'), (' ', ' '), ('"', '"'),
    ('\\', '\\'), ('/', '/'), ('N', '\x85'), ('_', '\xa0'), ('L', '\u2028'), ('P', '\u2029')]

/-- How many hexadecimal digits follow a sign. -/
def escapeDigits : List (Char × Nat) :=
  [('x', 2), ('u', 4), ('U', 8)]

/-- The character of a code. -/
def characterOf (code : Nat) : Except Flaw Char :=
  if 0x7FFFFFFF < code then .error (.breakdown .codeTooLarge)
  else if 0x10FFFF < code then .error .noCharacter
  else .ok (charOfCode code)

/-- Reads what follows a backslash: the piece it gives, and how many characters were read. -/
def readEscape : List Cell → Except Flaw (Piece × Nat)
  | [] => .error .malformed
  | cell :: rest =>
    match escapeMeanings.lookup cell.char, escapeDigits.lookup cell.char with
    | some meant, _ => .ok (.kept meant, 1)
    | none, some count =>
      let digits := charsOf (rest.take count)
      match hexNumber? digits with
      | some code =>
        if digits.length == count then
          match characterOf code with
          | .ok c => .ok (.kept c, count + 1)
          | .error flaw => .error flaw
        else .error .malformed
      | none => .error .malformed
    | none, none =>
      if isBreak cell.char && !atSeparator rest then .ok (.joint, 1) else .error .malformed

/-- A piece in front of what was read, with the number of characters it took. -/
def prependPiece (piece : Piece) :
    Except Flaw (List Piece × Nat) → Except Flaw (List Piece × Nat)
  | .error flaw => .error flaw
  | .ok (pieces, count) => .ok (piece :: pieces, count + 1)

/-- The pieces up to the closing quote, and how many characters they take with the quote; the first
`skip` characters are already read. -/
def piecesFrom (double : Bool) : Nat → List Cell → Except Flaw (List Piece × Nat)
  | _, [] => .error .malformed
  | skip + 1, _ :: rest =>
    match piecesFrom double skip rest with
    | .error flaw => .error flaw
    | .ok (pieces, count) => .ok (pieces, count + 1)
  | 0, cell :: rest =>
    let c := cell.char
    if c == '\'' && !double then
      if (charsOf (rest.take 1)) == ['\''] then
        prependPiece (.kept '\'') (piecesFrom double 1 rest)
      else .ok ([], 1)
    else if c == '"' && double then .ok ([], 1)
    else if c == '\\' && double then
      match readEscape rest with
      | .error flaw => .error flaw
      | .ok (piece, count) => prependPiece piece (piecesFrom double count rest)
    else if isBreak c then
      if atSeparator rest then .error .malformed
      else prependPiece (.lineBreak (breakMeaning c)) (piecesFrom double 0 rest)
    else if isSpace c then prependPiece (.space c) (piecesFrom double 0 rest)
    else prependPiece (.kept c) (piecesFrom double 0 rest)

/-- The text of some pieces after a gap. -/
def foldPieces : Gap → List Piece → List Char
  | gap, [] => gap.folded
  | gap, .kept c :: rest => gap.folded ++ c :: foldPieces .nothing rest
  | gap, .space c :: rest => foldPieces (gap.addSpace c) rest
  | gap, .lineBreak c :: rest => foldPieces (gap.addBreak c) rest
  | gap, .joint :: rest => gap.folded ++ foldPieces (.joined []) rest

/-- Reads a quoted text after its opening quote: the text, and how many characters it takes with its
closing quote. -/
def readQuoted (double : Bool) (cells : List Cell) : Except Flaw (List Char × Nat) :=
  match piecesFrom double 0 cells with
  | .error flaw => .error flaw
  | .ok (pieces, count) => .ok (foldPieces .nothing pieces, count)

end SchemaCodegen.Yaml
