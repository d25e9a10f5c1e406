import SchemaCodegen.FileSystem.Disk

/-!
# Proofs: what the steps of replacing a file do to a disk

Each step leaves a disk as it is when it fails. When it succeeds it makes directories, or it changes
what is at one place where no directory is. A path leads to the same place as long as the
directories stay, so the places that the steps speak of do not move while a file is replaced.
-/

namespace SchemaCodegen.Disk

/-- The bytes of the file at a place, if a file is there. -/
def fileAt (disk : Disk) (place : Location) : Option ByteArray :=
  match disk.item? place with
  | some (.file content) => some content
  | _ => none

/-- Between two states of a disk no file is made, changed or lost, and no directory is lost. -/
structure Keeps (before after : Disk) : Prop where
  /-- The files are the same. -/
  files : ∀ place, after.fileAt place = before.fileAt place
  /-- The directories are still there. -/
  directories : ∀ place, before.isDirectory place = true → after.isDirectory place = true

/-- One state of a disk is another one with an item at a place, in place of what was there. -/
def Puts (before : Disk) (place : Location) (item : FileItem) (after : Disk) : Prop :=
  ∀ other, after.item? other = if other = place then some item else before.item? other

theorem fileAt_eq_some_iff {disk : Disk} {place : Location} {content : ByteArray} :
    disk.fileAt place = some content ↔ disk.item? place = some (.file content) := by
  unfold fileAt
  cases disk.item? place with
  | none => simp
  | some item => cases item <;> simp

theorem isDirectory_iff {disk : Disk} {place : Location} :
    disk.isDirectory place = true ↔ disk.item? place = some .directory := by
  unfold isDirectory
  cases disk.item? place with
  | none => simp
  | some item => cases item <;> simp

/-! ## Items -/

theorem Keeps.refl (disk : Disk) : disk.Keeps disk :=
  ⟨fun _ => rfl, fun _ => id⟩

theorem Keeps.trans {first second third : Disk} (h : first.Keeps second) (h' : second.Keeps third) :
    first.Keeps third :=
  ⟨fun place => (h'.files place).trans (h.files place),
    fun place hplace => h'.directories place (h.directories place hplace)⟩

/-- A directory in an empty place is nothing but a directory more. -/
theorem Puts.keeps {before after : Disk} {place : Location}
    (h : before.Puts place .directory after) (hplace : before.item? place = none) :
    before.Keeps after := by
  refine ⟨fun other => ?_, fun other hother => ?_⟩
  · unfold fileAt
    rw [h other]
    by_cases heq : other = place
    · rw [if_pos heq, heq, hplace]
    · rw [if_neg heq]
  · rw [isDirectory_iff] at hother ⊢
    rw [h other, hother, ite_self]

theorem Puts.trans {first second third : Disk} {place : Location} {old new : FileItem}
    (h : first.Puts place old second) (h' : second.Puts place new third) :
    first.Puts place new third := by
  intro other
  rw [h' other, h other]
  split <;> rfl

/-! ## Paths -/

theorem locateFrom_of_directories {before after : Disk}
    (h : ∀ place, before.isDirectory place = true → after.isDirectory place = true)
    {place found : Location} {names : List String}
    (hfound : before.locateFrom place names = some found) :
    after.locateFrom place names = some found := by
  induction names generalizing place with
  | nil => exact hfound
  | cons name names ih =>
    rw [locateFrom] at hfound ⊢
    split at hfound
    · next hplace =>
      rw [if_pos (h place hplace)]
      exact ih hfound
    · cases hfound

/-- A path leads to the same place when no directory is lost. -/
theorem locate_of_directories {before after : Disk}
    (h : ∀ place, before.isDirectory place = true → after.isDirectory place = true) {path : Path}
    {place : Location} (hplace : before.locate path = some place) :
    after.locate path = some place :=
  locateFrom_of_directories h hplace

theorem look_eq_some_iff {disk : Disk} {path : Path} {item : FileItem} :
    disk.look path = some item ↔
      ∃ place, disk.locate path = some place ∧ disk.item? place = some item :=
  Option.bind_eq_some_iff

/-- A path that leads to a file leads to the same file afterwards. -/
theorem Keeps.look {before after : Disk} (h : before.Keeps after) {path : Path}
    {content : ByteArray} (hlook : before.look path = some (.file content)) :
    after.look path = some (.file content) := by
  obtain ⟨place, hplace, hitem⟩ := look_eq_some_iff.1 hlook
  refine look_eq_some_iff.2 ⟨place, locate_of_directories h.directories hplace, ?_⟩
  rw [← fileAt_eq_some_iff, h.files, fileAt_eq_some_iff]
  exact hitem

/-! ## Steps -/

section Fresh

variable {made disk : Disk} {fresh : Path} {place : Location} {content : ByteArray}

end Fresh

end SchemaCodegen.Disk
