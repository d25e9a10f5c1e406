import SchemaCodegen.CommandLine.Misuse
import SchemaCodegen.Text.Digits
import SchemaCodegen.Text.Lines
import SchemaCodegen.Text.Split

/-!
# Words of the command line

Every word of a command line is an operand, a switch with or without a text attached to it, or a
divider, after which all words are operands. A long spelling may be cut short as long as it stands
for one switch. A word that begins with a dash but is a negative number, or has a space in it, is an
operand.
-/

namespace SchemaCodegen.CommandLine

open SchemaCodegen.Text

/-- A word. -/
inductive Word where
  /-- A word that is no switch. -/
  | operand (text : String)
  /-- The word after which there are no switches. -/
  | divider
  /-- A switch, with the text attached to it; `short` tells how it is spelled. -/
  | switch (switch : Switch) (short : Bool) (attached : Option String)
  /-- A word that looks like a switch and is none. -/
  | unknown (text : String)
  deriving DecidableEq, Repr

/-- Whether a text is a number with a minus sign: digits with an optional point before the last of
them. A line feed may follow. -/
def isNegativeNumber (cs : List Char) : Bool :=
  match dropLineFeed cs with
  | '-' :: rest =>
    match rest.dropWhile isDecimalDigit with
    | [] => !rest.isEmpty
    | '.' :: digits => !digits.isEmpty && digits.all isDecimalDigit
    | _ => false
  | _ => false

/-- A word with a dash in front that names no switch. -/
def otherWord (word : String) : Word :=
  if isNegativeNumber word.toList || word.toList.contains ' ' then .operand word
  else .unknown word

/-- Reads a word that begins with two dashes. -/
def readLong (word : String) : Except Misuse Word :=
  let (start, after) := splitFirst '=' word.toList
  let attached := after.map String.ofList
  match Switch.ofLong? (String.ofList start) with
  | some found => .ok (.switch found false attached)
  | none =>
    match Switch.withStart (String.ofList start) with
    | [] => .ok (otherWord word)
    | [found] => .ok (.switch found false attached)
    | several => .error (.ambiguous word several)

/-- Reads a word that begins with one dash and a letter. -/
def readShort (word : String) (letter : Char) (rest : List Char) : Word :=
  match Switch.ofLetter? letter with
  | none => otherWord word
  | some found =>
    match rest with
    | [] => .switch found true none
    | c :: text => .switch found true (some (String.ofList (if c == '=' then text else rest)))

/-- Reads a word before the divider. -/
def readWord (word : String) : Except Misuse Word :=
  match word.toList with
  | '-' :: '-' :: _ => readLong word
  | '-' :: letter :: rest => .ok (readShort word letter rest)
  | _ => .ok (.operand word)

/-- Reads the words of a command line. -/
def readWords : List String → Except Misuse (List Word)
  | [] => .ok []
  | word :: words =>
    if word == "--" then .ok (.divider :: words.map .operand)
    else
      match readWord word, readWords words with
      | .error misuse, _ => .error misuse
      | _, .error misuse => .error misuse
      | .ok read, .ok more => .ok (read :: more)

end SchemaCodegen.CommandLine
