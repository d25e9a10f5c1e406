import SchemaCodegen.Text.Digits
import SchemaCodegen.Text.Utf8
import SchemaCodegen.Yaml.Scan
import SchemaCodegen.Yaml.Token

/-!
# Directives, names and tags

The signs in front of a document or a node: lines that speak to the reader, names that a node is
given or referred to by, and tags, which tell what kind of value a node is.
-/

namespace SchemaCodegen.Yaml

open SchemaCodegen.Text

/-- Whether a character may stand in a name. -/
def isNameChar (c : Char) : Bool :=
  c.isAlphanum || c == '-' || c == '_'

/-- Whether a character may stand in a tag. -/
def isTagChar (c : Char) : Bool :=
  isNameChar c || ";/?:@&=+$,.!~*'()[]%".toList.contains c

namespace Scan

/-- Takes spaces. -/
def spaces : Scan Unit := do
  let _ ← takeWhile (· == ' ')

/-- Takes a name of at least one character. -/
def name : Scan String := do
  let found ← takeWhile isNameChar
  if found.isEmpty then malformed else return String.ofList found

/-! ## Names of nodes -/

/-- Takes the name of a node after its sign. -/
def nodeName : Scan String := do
  skip 1
  let found ← name
  require fun cells =>
    atGap cells || (charsOf (cells.take 1)).any (",]\x7d?:%@\x60".toList.contains ·)
  return found

/-! ## Tags -/

/-- The bytes that are written as percent signs with two digits at the front of a text. -/
def escapedBytes : List Char → Except Flaw (List UInt8)
  | [] => .ok []
  | sign :: rest =>
    if sign != '%' then .ok []
    else
      match rest with
      | high :: low :: more =>
        match hexNumber? [high, low], escapedBytes more with
        | some code, .ok bytes => .ok (UInt8.ofNat code :: bytes)
        | _, _ => .error .malformed
      | _ => .error .malformed

/-- The meaning of the characters of a tag; the first `skip` characters are already read. -/
def tagMeaning : Nat → List Char → Except Flaw (List Char)
  | _, [] => .ok []
  | skip + 1, _ :: rest => tagMeaning skip rest
  | 0, c :: rest =>
    if c == '%' then
      match escapedBytes (c :: rest) with
      | .error flaw => .error flaw
      | .ok bytes =>
        match Utf8.decode bytes, tagMeaning (3 * bytes.length - 1) rest with
        | .ok cs, .ok more => .ok (cs ++ more)
        | _, _ => .error .malformed
    else
      match tagMeaning 0 rest with
      | .error flaw => .error flaw
      | .ok more => .ok (c :: more)

/-- Takes the characters of a tag, at least one. -/
def tagText : Scan String := do
  let found ← takeWhile isTagChar
  if found.isEmpty then malformed
  match tagMeaning 0 found with
  | .ok meant => return String.ofList meant
  | .error flaw => throw flaw

/-- Takes the short form of a tag: a name between exclamation marks, or one mark alone if the test
allows it. -/
def tagHandle (mayBeMark : List Cell → Bool) : Scan String := do
  expect '!'
  if mayBeMark (← left) then return "!"
  let found ← takeWhile isNameChar
  expect '!'
  return "!" ++ String.ofList found ++ "!"

/-- Whether a tag uses a short form with a name: another exclamation mark stands in it. -/
def usesHandle (cells : List Cell) : Bool :=
  (cells.takeWhile fun cell => cell.char != ' ' && !isBreak cell.char).any (·.char == '!')

/-- Takes a tag. -/
def tag : Scan Token := do
  let after := (← left).drop 1
  let found ←
    if (charsOf (after.take 1)) == ['<'] then do
      skip 2
      let text ← tagText
      expect '>'
      pure (Token.tag none text)
    else if atGap after then do
      skip 1
      pure (Token.tag none "!")
    else do
      let handle ← tagHandle fun _ => !usesHandle after
      let suffix ← tagText
      pure (Token.tag (some handle) suffix)
  require atFieldEnd
  return found

/-! ## Directives -/

/-- Takes a number. -/
def number : Scan Nat := do
  let digits ← takeWhile Char.isDigit
  if digits.isEmpty then malformed else return decimalNumber digits

/-- Takes what follows the name of a directive. -/
def directiveValue (name : String) : Scan Directive := do
  if name == "YAML" then
    spaces
    let major ← number
    expect '.'
    let _ ← number
    require atFieldEnd
    return .version major
  else if name == "TAG" then
    spaces
    let handle ← tagHandle fun cells => charsOf (cells.take 1) == [' ']
    expect ' '
    spaces
    let start ← tagText
    require atFieldEnd
    return .tagHandle handle start
  else
    let _ ← takeWhile (!isBreak ·)
    return .other

/-- Takes a directive, up to the end of its line. -/
def directive : Scan Token := do
  skip 1
  let found ← name
  require atFieldEnd
  let value ← directiveValue found
  spaces
  if (← next?) == some '#' then
    let _ ← takeWhile (!isBreak ·)
  require fun cells => (charsOf (cells.take 1)).all isBreak
  return .directive value

end Scan

end SchemaCodegen.Yaml
