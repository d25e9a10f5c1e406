/-!
# Quoted literals

A text is written into generated code as a literal between single quotes. The backslash, the single
quote, the line feed, the carriage return and the tab are written as a backslash and a sign; every
other character stands for itself. `readLiteral` reads such a literal off the front of a text, by
the language's own rule: the first quote that no backslash guards ends it, and a raw line break is
refused.
-/

namespace SchemaCodegen.Text

/-- How one character is written inside a literal. -/
def escapeChar (c : Char) : List Char :=
  if c = '\\' then ['\\', '\\']
  else if c = '\'' then ['\\', '\'']
  else if c = '\n' then ['\\', 'n']
  else if c = '\r' then ['\\', 'r']
  else if c = '\t' then ['\\', 't']
  else [c]

/-- A text as it is written between the quotes of a literal. -/
def escape (text : String) : String :=
  String.ofList (text.toList.flatMap escapeChar)

/-- A text as a literal. -/
def quote (text : String) : String :=
  "'" ++ escape text ++ "'"

/-- The character that a backslash and the given sign stand for. -/
def unescapeSign (sign : Char) : Option Char :=
  if sign = '\\' then some '\\'
  else if sign = '\'' then some '\''
  else if sign = 'n' then some '\n'
  else if sign = 'r' then some '\r'
  else if sign = 't' then some '\t'
  else none

/-- Puts a character in front of a text that was read. -/
def consRead (c : Char) : Option (List Char × List Char) → Option (List Char × List Char)
  | none => none
  | some (text, after) => some (c :: text, after)

/-- Reads the inside of a literal up to its closing quote: the text it stands for, and what follows
the quote. -/
def readInside : List Char → Option (List Char × List Char)
  | [] => none
  | c :: rest =>
    if c = '\'' then some ([], rest)
    else if c = '\n' ∨ c = '\r' then none
    else if c = '\\' then
      match rest with
      | [] => none
      | sign :: after =>
        match unescapeSign sign with
        | none => none
        | some meant => consRead meant (readInside after)
    else consRead c (readInside rest)

/-- Reads a literal off the front of a text: what it stands for, and what follows it. -/
def readLiteral : List Char → Option (List Char × List Char)
  | [] => none
  | c :: rest => if c = '\'' then readInside rest else none

end SchemaCodegen.Text
