import SchemaCodegen.Json.Flaw
import SchemaCodegen.Document
import SchemaCodegen.Text.Digits
import SchemaCodegen.Text.Half

/-!
# Tokens of a JSON text

A JSON text is cut into tokens from left to right. A place where no token can be read becomes a
token too, so that the order in which flaws are found is left to the reader of the tokens.
-/

namespace SchemaCodegen.Json

open SchemaCodegen.Number SchemaCodegen.Text

variable [Holding]

/-- What a token is. -/
inductive TokenKind where
  /-- The sign `[`. -/
  | beginList
  /-- The sign `]`. -/
  | endList
  /-- The sign that begins a mapping. -/
  | beginMapping
  /-- The sign that ends a mapping. -/
  | endMapping
  /-- The sign `,`. -/
  | comma
  /-- The sign `:`. -/
  | colon
  /-- A string. -/
  | string (text : String)
  /-- A string that cannot be read. -/
  | badString (flaw : Flaw)
  /-- A number or a word. -/
  | value (document : Document)
  /-- A number that cannot be read. -/
  | badNumber (flaw : Flaw)
  /-- A character that begins no token. -/
  | unknown

/-- A token with the position where it begins. -/
structure Token where
  /-- Where the token begins. -/
  position : Nat
  /-- What it is. -/
  kind : TokenKind

/-! ## Strings -/

/-- What a backslash and the given sign stand for. -/
def simpleEscape? (sign : Char) : Option Char :=
  [('"', '"'), ('\\', '\\'), ('/', '/'), ('b', '\x08'), ('f', '\x0c'), ('n', '\n'), ('r', '\r'),
    ('t', '\t')].lookup sign

/-- Reads the four digits after the `u` of an escape at the given position, and the second half of
a pair if one follows: the character, and how many characters were read. -/
def readCode (position : Nat) (cs : List Char) : Except Flaw (Char × Nat) :=
  if (cs.take 5).length < 5 then .error (.badAt .badCode position)
  else
    match hexNumber? (cs.take 4) with
    | none => .error (.badAt .badCode position)
    | some code =>
      let rest := cs.drop 4
      if isHighHalf code && 6 < (rest.take 7).length && rest.take 2 == ['\\', 'u'] then
        match hexNumber? ((rest.drop 2).take 4) with
        | none => .error (.badAt .badCode (position + 6))
        | some code' =>
          if isLowHalf code' then
            .ok (charOfCode (joinHalves code code'), 10)
          else .ok (charOfCode code, 4)
      else .ok (charOfCode code, 4)

/-- Reads what follows a backslash at the given position of the string that begins at `start`: the
character it stands for, and how many characters were read. -/
def readEscape (start position : Nat) : List Char → Except Flaw (Char × Nat)
  | [] => .error (.badAt .unterminated start)
  | sign :: rest =>
    if sign == 'u' then do
      let (c, count) ← readCode (position + 1) rest
      return (c, count + 1)
    else
      match simpleEscape? sign with
      | some c => .ok (c, 1)
      | none => .error (.badAt .badEscape position)

/-- Reads a string that begins at `start`, from the given position on; the first `skip` characters
are already read, and `read` holds what was read so far in reverse. Returns the text and the
position after its closing quote. -/
def readString (start : Nat) :
    Nat → Nat → List Char → List Char → Except Flaw (String × Nat)
  | _, _, _, [] => .error (.badAt .unterminated start)
  | skip + 1, position, read, _ :: rest => readString start skip (position + 1) read rest
  | 0, position, read, c :: rest =>
    if c == '"' then .ok (String.ofList read.reverse, position + 1)
    else if c == '\\' then
      match readEscape start position rest with
      | .error flaw => .error flaw
      | .ok (meant, count) => readString start count (position + 1) (meant :: read) rest
    else if c.toNat < 0x20 then .error (.badAt .controlCharacter position)
    else readString start 0 (position + 1) (c :: read) rest

/-! ## Numbers -/

/-- The digits after a point, if a point and a digit are there. -/
def fractionDigits : List Char → List Char
  | '.' :: rest => rest.takeWhile Char.isDigit
  | _ => []

/-- The sign and the digits of an exponent, if an exponent mark and a digit are there. -/
def exponentParts : List Char → List Char × List Char
  | mark :: rest =>
    if mark == 'e' || mark == 'E' then
      let sign := (rest.take 1).filter fun c => c == '-' || c == '+'
      let digits := (rest.drop sign.length).takeWhile Char.isDigit
      if digits.isEmpty then ([], []) else (sign, digits)
    else ([], [])
  | [] => ([], [])

/-- A number as it is written: digits before the point, digits after it, and an exponent. -/
structure Numeral where
  /-- Whether a minus sign is in front. -/
  negative : Bool
  /-- The digits before the point. -/
  whole : List Char
  /-- The digits after the point, if any. -/
  fraction : List Char
  /-- The sign of the exponent, if written. -/
  exponentSign : List Char
  /-- The digits of the exponent, if any. -/
  exponent : List Char

/-- How many characters the number has. -/
def Numeral.length (n : Numeral) : Nat :=
  (if n.negative then 1 else 0) + n.whole.length +
    (if n.fraction.isEmpty then 0 else n.fraction.length + 1) +
    (if n.exponent.isEmpty then 0 else n.exponent.length + n.exponentSign.length + 1)

/-- What the number stands for: a whole number if it has neither a fraction nor an exponent. -/
def Numeral.kind (n : Numeral) : TokenKind :=
  if n.fraction.isEmpty && n.exponent.isEmpty then
    if maxDigits < n.whole.length then .badNumber (.tooManyDigits n.whole.length)
    else .value (.int (Binary64.signed n.negative (decimalNumber n.whole)))
  else
    let shift := Binary64.signed (n.exponentSign == ['-']) (decimalNumber n.exponent)
    let digits := decimalNumber (n.whole ++ n.fraction)
    .value (.float (Binary64.ofDecimal n.negative digits (shift - n.fraction.length)))

/-- The number at the front of a text, if one is there: a single zero, or digits that do not begin
with one, and then a fraction and an exponent if they are complete. -/
def numeral? (cs : List Char) : Option Numeral :=
  let negative := cs.head? == some '-'
  let rest := if negative then cs.drop 1 else cs
  let digits := rest.takeWhile Char.isDigit
  let whole := if digits.head? == some '0' then ['0'] else digits
  if whole.isEmpty then none
  else
    let afterWhole := rest.drop whole.length
    let fraction := fractionDigits afterWhole
    let afterFraction :=
      if fraction.isEmpty then afterWhole else afterWhole.drop (fraction.length + 1)
    let (sign, exponent) := exponentParts afterFraction
    some ⟨negative, whole, fraction, sign, exponent⟩

/-! ## Tokens -/

/-- The words that stand for values. -/
def wordValues : List (String × Document) :=
  [("null", .null), ("true", .truth true), ("false", .truth false), ("NaN", .float .nan),
    ("Infinity", .float (.infinite false)), ("-Infinity", .float (.infinite true))]

/-- The signs that are tokens by themselves. -/
def signKinds : List (Char × TokenKind) :=
  [('[', .beginList), (']', .endList), ('\x7b', .beginMapping), ('\x7d', .endMapping),
    (',', .comma), (':', .colon)]

/-- The kind of the token at the front of a text that begins with `c` and goes on with `rest`, and
its length. -/
def readToken (position : Nat) (c : Char) (rest : List Char) : TokenKind × Nat :=
  match signKinds.lookup c with
  | some kind => (kind, 1)
  | none =>
    if c == '"' then
      match readString position 0 (position + 1) [] rest with
      | .ok (text, after) => (.string text, after - position)
      | .error flaw => (.badString flaw, 1)
    else
      match wordValues.find? fun word => word.1.toList.isPrefixOf (c :: rest) with
      | some word => (.value word.2, word.1.length)
      | none =>
        match numeral? (c :: rest) with
        | some n => (n.kind, n.length)
        | none => (.unknown, 1)

/-- The characters that may stand between tokens. -/
def isSpace (c : Char) : Bool :=
  c == ' ' || c == '\t' || c == '\n' || c == '\r'

/-- The tokens of a text from the given position on; the first `skip` characters belong to a token
that was already read. -/
def tokensFrom : Nat → Nat → List Char → List Token
  | _, _, [] => []
  | skip + 1, position, _ :: rest => tokensFrom skip (position + 1) rest
  | 0, position, c :: rest =>
    if isSpace c then tokensFrom 0 (position + 1) rest
    else
      let (kind, length) := readToken position c rest
      ⟨position, kind⟩ :: tokensFrom (length - 1) (position + 1) rest

/-- The tokens of a text. -/
def tokens (text : List Char) : List Token :=
  tokensFrom 0 0 text

end SchemaCodegen.Json
