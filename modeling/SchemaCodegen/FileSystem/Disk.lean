import SchemaCodegen.FileSystem.Basic
import SchemaCodegen.Text.Digits

/-!
# Disks

A file system as a value: what is at each place, and which steps it refuses. A place is found by
walking along the names of a path; two dots lead back, and a name inside something that is no
directory leads nowhere. Absolute paths begin at a place of their own.
-/

namespace SchemaCodegen

open SchemaCodegen.Text

/-- A place of a disk: the names that lead to it, without detours. -/
abbrev Location := List String

/-- A step of replacing a file. -/
inductive FileStep where
  /-- Making directories. -/
  | makeDirectories
  /-- Making a new file. -/
  | create
  /-- Writing its content. -/
  | write
  /-- Giving it its final path. -/
  | rename
  deriving DecidableEq, Repr

/-- A disk. -/
structure Disk where
  /-- What is at which place. -/
  items : List (Location × FileItem) := []
  /-- Which steps fail. -/
  refuses : FileStep → Bool := fun _ => false

namespace Disk

/-- Whether a place is there on every disk: the directory where relative paths begin, those around
it, and the one where absolute paths begin. -/
def isBase (place : Location) : Bool :=
  place.all fun name => name == ".." || name == "/"

/-- What is at a place. -/
def item? (disk : Disk) (place : Location) : Option FileItem :=
  if isBase place then some .directory else disk.items.lookup place

/-- Whether a directory is at a place. -/
def isDirectory (disk : Disk) (place : Location) : Bool :=
  match disk.item? place with
  | some .directory => true
  | _ => false

/-- The disk without what is at a place. -/
def erase (disk : Disk) (place : Location) : Disk :=
  { disk with items := disk.items.filter fun entry => entry.1 != place }

/-- The disk with an item at a place. -/
def put (disk : Disk) (place : Location) (item : FileItem) : Disk :=
  { disk with items := (place, item) :: (disk.erase place).items }

/-- The place that a name leads to from another place. -/
def follow (place : Location) (name : String) : Location :=
  if name == ".." then
    match place.getLast? with
    | none => [".."]
    | some last =>
      if last == "/" then place else if last == ".." then place ++ [".."] else place.dropLast
  else place ++ [name]

/-- The place where a path begins. -/
def start (path : Path) : Location :=
  if path.root.isEmpty then [] else ["/"]

/-- The place that names lead to from a place, if all but the last lead to directories. -/
def locateFrom (disk : Disk) (place : Location) : List String → Option Location
  | [] => some place
  | name :: names =>
    if disk.isDirectory place then disk.locateFrom (follow place name) names else none

/-- The place that a path leads to. -/
def locate (disk : Disk) (path : Path) : Option Location :=
  disk.locateFrom (start path) path.names

/-- What a path leads to. -/
def look (disk : Disk) (path : Path) : Option FileItem :=
  (disk.locate path).bind disk.item?

/-- Whether names lead to a directory with a name after it that is too long to be looked up. -/
def meetsLongName (disk : Disk) (place : Location) : List String → Bool
  | [] => false
  | name :: names =>
    disk.isDirectory place &&
      (Path.isLongName name || disk.meetsLongName (follow place name) names)

/-- What is found at a path when it is looked up. -/
def lookUp (disk : Disk) (path : Path) : Except Breakdown (Option FileItem) :=
  if path.hasZero then .ok none
  else if path.isLong || disk.meetsLongName (start path) path.names then
    .error (.nameTooLong path.toText)
  else .ok (disk.look path)

/-- The disk with a directory at a place, if a directory is there or can be made. -/
def makeDirectory? (disk : Disk) (place : Location) : Option Disk :=
  match disk.item? place with
  | some .directory => some disk
  | some (.file _) => none
  | none =>
    if Path.isLongName (place.getLast?.getD "") then none else some (disk.put place .directory)

/-- How many directories have to be made along some names from a place; none if something else is in
the way. -/
def missingFrom (disk : Disk) (place : Location) : List String → Nat
  | [] => 0
  | name :: names =>
    match disk.item? (follow place name) with
    | some .directory => disk.missingFrom (follow place name) names
    | some (.file _) => 0
    | none => if Path.isLongName name then 0 else names.length + 1

/-- How many directories have to be made for the directory at a path to be there. -/
def missing (disk : Disk) (path : Path) : Nat :=
  if path.isLong then 0 else disk.missingFrom (start path) path.names

/-- Makes directories along some names from a place, and tells whether all are there; those that
were made before one that cannot be made stay. -/
def makeDirectoriesFrom (disk : Disk) (place : Location) : List String → Bool × Disk
  | [] => (true, disk)
  | name :: names =>
    match disk.makeDirectory? (follow place name) with
    | none => (false, disk)
    | some more => more.makeDirectoriesFrom (follow place name) names

/-- The name of a new file beside a file, by number. -/
def freshName (name : String) (number : Nat) : String :=
  "." ++ name ++ "." ++ paddedNumber 8 number ++ ".tmp"

/-- The path of a new file beside a file: the first by number where nothing is. -/
def freshPath? (disk : Disk) (path : Path) : Option Path :=
  let paths := (List.range (disk.items.length + 1)).map fun number =>
    path.sibling (freshName path.name number)
  paths.find? fun fresh =>
    !Path.isLongName fresh.name && !fresh.isLong &&
      (disk.locate fresh).any fun place => (disk.item? place).isNone

/-- The disk with a file at a path where a file may be. -/
def putFile? (disk : Disk) (path : Path) (content : ByteArray) : Option Disk :=
  match disk.locate path with
  | none => none
  | some place =>
    if disk.isDirectory place || Path.isLongName path.name then none
    else some (disk.put place (.file content))

/-- The disk with a file moved to another path. -/
def rename? (disk : Disk) (old new : Path) : Option Disk :=
  match disk.look old, disk.locate old with
  | some (.file content), some place => (disk.erase place).putFile? new content
  | _, _ => none

/-- The disk without a file. -/
def removeFile (disk : Disk) (path : Path) : Disk :=
  match disk.locate path with
  | some place => disk.erase place
  | none => disk

/-- Takes a step that the disk may refuse, or that may not be possible. -/
def attempt (step : FileStep) (change : Disk → Option Disk) : StateM Disk Bool := do
  let disk ← get
  if disk.refuses step then return false
  match change disk with
  | none => return false
  | some changed =>
    set changed
    return true

/-- Makes a new file beside a path. -/
def createBeside (path : Path) : StateM Disk (Option Path) := do
  let disk ← get
  match disk.freshPath? path with
  | none => return none
  | some fresh =>
    if ← attempt .create (·.putFile? fresh ByteArray.empty) then return some fresh
    else return none

/-- Makes a directory and those it lies in. -/
def makeDirectories (path : Path) : StateM Disk Bool := do
  let disk ← get
  if disk.refuses .makeDirectories || path.isLong then return false
  let (made, after) := disk.makeDirectoriesFrom (start path) path.names
  set after
  return made

/-- A disk as a file system. -/
def files : FileSystem (StateM Disk) where
  look path := do return (← get).lookUp path
  missing path := do return (← get).missing path
  makeDirectories := makeDirectories
  createBeside := createBeside
  write path content := attempt .write (·.putFile? path content)
  rename old new := attempt .rename (·.rename? old new)
  remove path := modify (·.removeFile path)

end Disk

end SchemaCodegen
