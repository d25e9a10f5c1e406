import SchemaCodegen.Text.Digits

/-!
# Reading UTF-8

A sequence of bytes is read as characters. The first byte of a character tells how many bytes it
takes; the second is held to a range that shuts out longer spellings than needed, the halves of
pairs, and codes beyond the last character. The first place that does not fit is the flaw of the
bytes: it covers the bytes up to the one that broke the character.
-/

namespace SchemaCodegen.Text.Utf8

/-- What is wrong with a character. -/
inductive Cause where
  /-- No character begins with this byte. -/
  | badStart
  /-- A byte that had to go on with the character does not. -/
  | badContinuation
  /-- The bytes end inside the character. -/
  | unfinished
  deriving DecidableEq, Repr

/-- The words for a cause. -/
def Cause.message : Cause → String
  | badStart => "invalid start byte"
  | badContinuation => "invalid continuation byte"
  | unfinished => "unexpected end of data"

/-- A place that cannot be read. -/
structure Flaw where
  /-- What is wrong. -/
  cause : Cause
  /-- Where the character begins. -/
  position : Nat
  /-- Its first byte. -/
  byte : UInt8
  /-- How many bytes it covers. -/
  count : Nat
  deriving DecidableEq, Repr

/-- A byte in two hexadecimal digits. -/
def showByte (byte : UInt8) : String :=
  let digits := String.ofList (Nat.toDigits 16 byte.toNat)
  "0x" ++ (if byte < 16 then "0" else "") ++ digits

/-- The flaw in words. -/
def Flaw.message (flaw : Flaw) : String :=
  let place :=
    if flaw.count == 1 then
      "byte " ++ showByte flaw.byte ++ " in position " ++ toString flaw.position
    else
      "bytes in position " ++ toString flaw.position ++ "-" ++
        toString (flaw.position + flaw.count - 1)
  "'utf-8' codec can't decode " ++ place ++ ": " ++ flaw.cause.message

/-- How many bytes follow a first byte. -/
def followers? (first : UInt8) : Option Nat :=
  if first < 0x80 then some 0
  else if first < 0xC2 then none
  else if first < 0xE0 then some 1
  else if first < 0xF0 then some 2
  else if first < 0xF5 then some 3
  else none

/-- Whether a byte goes on with a character. -/
def isFollower (byte : UInt8) : Bool :=
  0x80 ≤ byte && byte < 0xC0

/-- Whether a byte may be the second one after the given first one. -/
def maySecond (first second : UInt8) : Bool :=
  isFollower second &&
    (if first == 0xE0 then 0xA0 ≤ second
    else if first == 0xED then second < 0xA0
    else if first == 0xF0 then 0x90 ≤ second
    else if first == 0xF4 then second < 0x90
    else true)

/-- The bytes, at most `wanted` of them, that go on with the character of a first byte. -/
def followersOf (first : UInt8) (wanted : Nat) : List UInt8 → List UInt8
  | [] => []
  | second :: rest =>
    if wanted == 0 || !maySecond first second then []
    else second :: (rest.take (wanted - 1)).takeWhile isFollower

/-- The bits that the first byte of a character with so many followers gives to its code. -/
def leadBits (first : UInt8) (wanted : Nat) : Nat :=
  if wanted == 0 then first.toNat
  else first.toNat % Nat.pow 2 (6 - wanted)

/-- Reads one character: the character and the number of its further bytes, or what is wrong and how
many bytes it covers. -/
def readCharacter (first : UInt8) (rest : List UInt8) : Except (Cause × Nat) (Char × Nat) :=
  match followers? first with
  | none => .error (.badStart, 1)
  | some wanted =>
    let found := followersOf first wanted rest
    if found.length == wanted then
      let code := found.foldl (fun sum byte => sum * 64 + byte.toNat % 64) (leadBits first wanted)
      .ok (Char.ofNat code, wanted)
    else if found.length == rest.length then .error (.unfinished, found.length + 1)
    else .error (.badContinuation, found.length + 1)

/-- The characters of the bytes from the given position on; the first `skip` bytes belong to a
character that was already read. -/
def decodeFrom : Nat → Nat → List UInt8 → Except Flaw (List Char)
  | _, _, [] => .ok []
  | skip + 1, position, _ :: rest => decodeFrom skip (position + 1) rest
  | 0, position, byte :: rest =>
    match readCharacter byte rest with
    | .error (cause, count) => .error ⟨cause, position, byte, count⟩
    | .ok (c, count) =>
      match decodeFrom count (position + 1) rest with
      | .error flaw => .error flaw
      | .ok cs => .ok (c :: cs)

/-- The characters of a sequence of bytes. -/
def decode (bytes : List UInt8) : Except Flaw (List Char) :=
  decodeFrom 0 0 bytes

end SchemaCodegen.Text.Utf8
