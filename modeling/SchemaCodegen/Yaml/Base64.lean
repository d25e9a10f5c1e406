/-!
# Bytes written as signs

Four signs, each of which stands for six bits, give three bytes; a group at the end may be shorter,
and is filled up with marks. What is neither a sign nor a mark does not count, and marks count only
where a group can end.
-/

namespace SchemaCodegen.Yaml.Base64

/-- The bits that a sign stands for. -/
def bits? (c : Char) : Option Nat :=
  if 'A' ≤ c && c ≤ 'Z' then some (c.toNat - 65)
  else if 'a' ≤ c && c ≤ 'z' then some (c.toNat - 71)
  else if c.isDigit then some (c.toNat + 4)
  else if c == '+' then some 62
  else if c == '/' then some 63
  else none

/-- A group of signs that is not complete. -/
structure Group where
  /-- How many signs it has. -/
  count : Nat := 0
  /-- The bits that no byte has taken. -/
  held : Nat := 0
  /-- How many marks follow the signs. -/
  marks : Nat := 0

/-- Whether a mark ends the group. -/
def Group.endsAtMark (group : Group) : Bool :=
  2 ≤ group.count && 3 ≤ group.count + group.marks

/-- The group after a mark that does not end it. -/
def Group.addMark (group : Group) : Group :=
  if 2 ≤ group.count then { group with marks := group.marks + 1 } else group

/-- The group after a sign, and the byte that is complete with it, if one is. -/
def Group.addSign (group : Group) (bits : Nat) : Group × List UInt8 :=
  match group.count with
  | 0 => (⟨1, bits, 0⟩, [])
  | 1 => (⟨2, bits % 16, 0⟩, [UInt8.ofNat (group.held * 4 + bits / 16)])
  | 2 => (⟨3, bits % 4, 0⟩, [UInt8.ofNat (group.held * 16 + bits / 4)])
  | _ => ({}, [UInt8.ofNat (group.held * 64 + bits)])

/-- The bytes of a text that goes on after a group; none if the last group has no end. -/
def decodeFrom (group : Group) : List Char → Option (List UInt8)
  | [] => if group.count == 0 then some [] else none
  | c :: rest =>
    if c == '=' then
      if group.endsAtMark then some [] else decodeFrom group.addMark rest
    else
      match bits? c with
      | none => decodeFrom group rest
      | some bits =>
        let (next, bytes) := group.addSign bits
        (decodeFrom next rest).map (bytes ++ ·)

/-- The bytes of a text. -/
def decode (cs : List Char) : Option (List UInt8) :=
  decodeFrom {} cs

end SchemaCodegen.Yaml.Base64
