import SchemaCodegen.Text.Split

/-!
# Paths

A path is a sequence of names with an optional root in front. Repeated slashes, a slash at the end
and single dots say nothing and are left out. Two dots are kept, because what they lead to depends
on what is there.
-/

namespace SchemaCodegen

open SchemaCodegen.Text

/-- A path. -/
structure Path where
  /-- The slashes in front of an absolute path: one, or two if the path begins with just two. -/
  root : String := ""
  /-- The names between slashes. -/
  names : List String := []
  deriving DecidableEq, Repr

namespace Path

/-- The root of a path that begins with so many slashes. -/
def rootOf (slashes : Nat) : String :=
  if slashes == 0 then "" else if slashes == 2 then "//" else "/"

/-- The path that a text gives. -/
def ofText (text : String) : Path :=
  let cs := text.toList
  let parts := (splitAll '/' cs).map String.ofList
  { root := rootOf (cs.takeWhile (· == '/')).length
    names := parts.filter fun part => !part.isEmpty && part != "." }

/-- A path as a text; the path without names is a dot. -/
def toText (path : Path) : String :=
  if path.root.isEmpty && path.names.isEmpty then "."
  else path.root ++ String.intercalate "/" path.names

/-- The last name. -/
def name (path : Path) : String :=
  path.names.getLast?.getD ""

/-- The path without its last name. -/
def parent (path : Path) : Path :=
  { path with names := path.names.dropLast }

/-- The path of another name in the same directory. -/
def sibling (path : Path) (name : String) : Path :=
  { path with names := path.names.dropLast ++ [name] }

/-- The longest name that can be looked up, in bytes. -/
def maxNameBytes : Nat := 255

/-- The longest path that can be looked up, in bytes. -/
def maxBytes : Nat := 4095

/-- Whether a name is too long to be looked up. -/
def isLongName (name : String) : Bool :=
  maxNameBytes < name.utf8ByteSize

/-- Whether the path is too long to be looked up. -/
def isLong (path : Path) : Bool :=
  maxBytes < path.toText.utf8ByteSize

/-- Whether a zero is among the characters of the path. -/
def hasZero (path : Path) : Bool :=
  path.toText.toList.contains '\x00'

/-- The end of a name from its last dot on, unless the dot is its first or last character. -/
def extension (path : Path) : String :=
  let cs := path.name.toList
  let after := (cs.reverse.takeWhile (· != '.')).reverse
  if after.isEmpty || cs.length ≤ after.length + 1 then "" else "." ++ String.ofList after

end Path

end SchemaCodegen
