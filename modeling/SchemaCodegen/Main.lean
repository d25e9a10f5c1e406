import SchemaCodegen.CommandLine.Run

/-!
# The program

The command line of the program, run on the files of the machine.
-/

namespace SchemaCodegen

/-- Whether an action succeeds. -/
def succeeds (action : IO Unit) : IO Bool := do
  try
    action
    return true
  catch _ => return false

/-- Makes an empty file with a new name beside the file at a path, trying the given numbers. -/
def createFresh (path : Path) : List Nat → IO (Option Path)
  | [] => return none
  | number :: numbers => do
    let fresh := path.sibling ("." ++ path.name ++ "." ++ toString number ++ ".tmp")
    let made ← succeeds do
      let _ ← IO.FS.Handle.mk fresh.toText .writeNew
    if made then return some fresh else createFresh path numbers

/-- What a path leads to on the machine. -/
def lookAt (path : Path) : IO (Except Breakdown (Option FileItem)) := do
  if path.hasZero then return .ok none
  try
    let content ← IO.FS.readBinFile path.toText
    return .ok (some (.file content))
  catch
    | .noFileOrDirectory _ _ _ => return .ok none
    | _ =>
      if path.isLong || path.names.any Path.isLongName then
        return .error (.nameTooLong path.toText)
      else return .ok (some .directory)

/-- How many directories have to be made along some names, after the names before them. -/
def missingAfter (root : String) (before : List String) : List String → IO Nat
  | [] => return 0
  | name :: names => do
    match ← lookAt ⟨root, before ++ [name]⟩ with
    | .ok (some .directory) => missingAfter root (before ++ [name]) names
    | .ok none => return names.length + 1
    | _ => return 0

/-- The files of the machine. -/
def machineFiles : FileSystem IO where
  look := lookAt
  missing path := if path.isLong then return 0 else missingAfter path.root [] path.names
  makeDirectories path := succeeds (IO.FS.createDirAll path.toText)
  createBeside path := createFresh path (List.range 1000)
  write path content := succeeds (IO.FS.writeBinFile path.toText content)
  rename old new := succeeds (IO.FS.rename old.toText new.toText)
  remove path := do
    let _ ← succeeds (IO.FS.removeFile path.toText)

/-- An entry of the log as a line. -/
def logLine (event : Event) : String :=
  event.level.name ++ " | " ++ event.source ++ " | " ++ event.message

/-- Milliseconds as seconds with three decimals. -/
def secondsText (milliseconds : Nat) : String :=
  toString (milliseconds / 1000) ++ "." ++ Text.paddedNumber 3 (milliseconds % 1000)

/-- Shows what a run leads to, after the given time; a run that breaks off has the exit code 1. -/
def showOutcome [Text.Holding] (seconds : String) :
    Except Breakdown CommandLine.Outcome → IO UInt32
  | .error cause => do
    IO.eprintln cause.message
    return 1
  | .ok outcome => do
    for event in outcome.events do
      IO.eprintln (logLine event)
    IO.print outcome.output
    IO.eprint (outcome.errorText seconds)
    return outcome.exitCode.toUInt32

/-- Runs a command line on the files of the machine, and shows what it leads to. -/
def runOnMachine (words : List String) : IO UInt32 := do
  let before ← IO.monoMsNow
  let outcome ← CommandLine.run {} machineFiles words
  let after ← IO.monoMsNow
  let holding := Text.Holding.apartFrom .standard (words.flatMap String.toList)
  @showOutcome holding (secondsText (after - before)) outcome

end SchemaCodegen

/-- Runs the program. -/
def main (words : List String) : IO UInt32 :=
  SchemaCodegen.runOnMachine words
