import Mathlib.Data.List.TakeWhile
import SchemaCodegen.Proofs.FileSystem.Disk

/-!
# Proofs: replacing a file

A file is replaced in four steps. Whichever of them fails, the disk holds the same files as before:
the new file beside the wanted one is gone, and the wanted one has not been touched. If none fails,
the path leads to the new content, and no other file differs. A path or a text that no file can
have, and too many new directories inside each other, are met before the new file is made.
-/

namespace SchemaCodegen.Disk

open SchemaCodegen.Text

/-- The step of replacing a file that fails, after those before it have succeeded. -/
inductive FailsAt (disk : Disk) (path : Path) (content : ByteArray) : FileStep → Prop where
  /-- The directories are not made. -/
  | makeDirectories {after : Disk}
      (hmake : (files.makeDirectories path.parent).run disk = (false, after)) :
      FailsAt disk path content .makeDirectories
  /-- The new file is not made. -/
  | create {made after : Disk}
      (hmake : (files.makeDirectories path.parent).run disk = (true, made))
      (hcreate : (files.createBeside path).run made = (none, after)) :
      FailsAt disk path content .create
  /-- The new file is not filled. -/
  | write {made created after : Disk} {fresh : Path}
      (hmake : (files.makeDirectories path.parent).run disk = (true, made))
      (hcreate : (files.createBeside path).run made = (some fresh, created))
      (hwrite : (files.write fresh content).run created = (false, after)) :
      FailsAt disk path content .write
  /-- The new file does not get its final path. -/
  | rename {made created written after : Disk} {fresh : Path}
      (hmake : (files.makeDirectories path.parent).run disk = (true, made))
      (hcreate : (files.createBeside path).run made = (some fresh, created))
      (hwrite : (files.write fresh content).run created = (true, written))
      (hrename : (files.rename fresh path).run written = (false, after)) :
      FailsAt disk path content .rename

/-- The path, or the one that leads to its directory, has a zero in it, or too many directories are
missing, or the text has halves that stand alone. The directories are made before the text and the
whole path are looked at. -/
inductive Unwritable [Holding] (room : Room) (disk : Disk) (path : Path) (text : String) :
    Prop where
  /-- The directory has no name that can be. -/
  | parent (hparent : path.parent.hasZero = true)
  /-- There is no room for so many new directories inside each other. -/
  | deep (hdeep : room.directories < disk.missing path.parent)
  /-- The text has no bytes, or the file has no name that can be. -/
  | content {made : Disk} (hmake : (files.makeDirectories path.parent).run disk = (true, made))
      (htext : hasLoneHalf text = true ∨ path.hasZero = true)

/-- After a file has been replaced the path leads to the new content, no other file differs, and no
directory is lost. -/
structure Replaces (before : Disk) (path : Path) (content : ByteArray) (after : Disk) : Prop where
  /-- The path leads to the new content. -/
  look : after.look path = some (.file content)
  /-- No file at another place differs. -/
  others : ∃ place, after.locate path = some place ∧
    ∀ other, other ≠ place → after.fileAt other = before.fileAt other
  /-- The directories are still there. -/
  directories : ∀ place, before.isDirectory place = true → after.isDirectory place = true

/-- What comes of replacing a file. -/
inductive Replacement [Holding] (room : Room) (disk : Disk) (path : Path) (text : String) :
    Except Breakdown Bool → Disk → Prop where
  /-- It breaks off at something that no file can have. -/
  | brokenOff {cause : Breakdown} {after : Disk} (hunwritable : Unwritable room disk path text)
      (hkeeps : disk.Keeps after) : Replacement room disk path text (.error cause) after
  /-- One of its steps fails. -/
  | failed {after : Disk} {step : FileStep} (hwritable : ¬ Unwritable room disk path text)
      (hfails : FailsAt disk path text.toUTF8 step) (hkeeps : disk.Keeps after) :
      Replacement room disk path text (.ok false) after
  /-- The file is replaced. -/
  | done {after : Disk} (hwritable : ¬ Unwritable room disk path text)
      (hfails : ∀ step, ¬ FailsAt disk path text.toUTF8 step)
      (hreplaces : disk.Replaces path text.toUTF8 after) :
      Replacement room disk path text (.ok true) after

/-! ## The new file -/

variable [Holding]

end SchemaCodegen.Disk
