import SchemaCodegen.Breakdown
import SchemaCodegen.FileSystem.Path

/-!
# File systems

What the program asks of a file system, as a record of operations in some monad. An operation that
fails says so in its result and changes nothing that is looked at later. `replaceFile` is built on
these operations: it writes a new file beside the wanted one and then renames it, so the wanted file
holds either its previous content or the whole new one. A path or a text that no file can have, or
too many new directories inside each other, are no failure of an operation, but break the run off.
-/

namespace SchemaCodegen

open SchemaCodegen.Text

/-- What a path leads to. -/
inductive FileItem where
  /-- A directory, or anything else that is no file. -/
  | directory
  /-- A file with its bytes. -/
  | file (content : ByteArray)

/-- The operations of a file system. -/
structure FileSystem (m : Type → Type) where
  /-- What the path leads to, if it leads to anything. -/
  look : Path → m (Except Breakdown (Option FileItem))
  /-- How many directories have to be made for the directory to be there. -/
  missing : Path → m Nat
  /-- Makes the directory and those it lies in, where they are missing. -/
  makeDirectories : Path → m Bool
  /-- Makes an empty file with a new name in the directory of the path, and tells its path. -/
  createBeside : Path → m (Option Path)
  /-- Writes the content of a file. -/
  write : Path → ByteArray → m Bool
  /-- Gives the file at the first path the second path, in place of a file that is there. -/
  rename : Path → Path → m Bool
  /-- Removes a file. -/
  remove : Path → m Unit

namespace FileSystem

variable [Holding] {m : Type → Type} [Monad m]

/-- Fills a new file and gives it its final path; if that fails the new file is removed. -/
def fillAndRename (files : FileSystem m) (fresh path : Path) (content : ByteArray) : m Bool := do
  let done ← do
    if ← files.write fresh content then files.rename fresh path else pure false
  unless done do files.remove fresh
  return done

/-- The bytes of a text, as a file holds them. -/
def encode (text : String) : Except Breakdown ByteArray :=
  match firstHalves? text with
  | none => .ok text.toUTF8
  | some (position, halves) => .error (.loneHalves position halves)

/-- Makes a new file with the given content and gives it the path, in place of a file that is
there. -/
def putFile (files : FileSystem m) (path : Path) (content : ByteArray) : m Bool := do
  match ← files.createBeside path with
  | none => return false
  | some fresh => files.fillAndRename fresh path content

/-- Replaces the text of a file, or makes the file, with the directories it lies in. -/
def replaceFile (room : Room) (files : FileSystem m) (path : Path) (text : String) :
    m (Except Breakdown Bool) := do
  if path.parent.hasZero then return .error .zeroInPath
  if room.directories < (← files.missing path.parent) then return .error (.tooDeep .directory)
  if ← files.makeDirectories path.parent then
    match encode text with
    | .error cause => return .error cause
    | .ok content =>
      if path.hasZero then return .error .zeroInPath
      else return .ok (← files.putFile path content)
  else return .ok false

end FileSystem

end SchemaCodegen
