import SchemaCodegen.CommandLine.Arguments
import SchemaCodegen.CommandLine.Usage
import SchemaCodegen.Generation
import SchemaCodegen.SchemaFile

/-!
# Running a command line

A command line asks for texts about the program or for a generation: the style is chosen, the schema
is loaded and narrowed, the module is made, and it is written to a file or to the standard output.
The first of these steps that fails gives the exit code. Only files are touched while it runs; what
goes to the standard output and to the standard error is part of the outcome. A run that breaks off
has no outcome.
-/

namespace SchemaCodegen.CommandLine

open SchemaCodegen.Text (Holding)

/-- Why a generation fails. -/
inductive Failure where
  /-- No style has the given name. -/
  | unknownStyle (name : String)
  /-- The schema cannot be loaded. -/
  | notLoaded (error : LoadError)
  /-- The schema is loaded, but a number of it has too many digits to be written. -/
  | longNumber
  /-- The output file cannot be written. -/
  | notWritten (path : Path)

namespace Failure

variable [Holding]

/-- The exit code of a failure. -/
def exitCode : Failure → Nat
  | unknownStyle _ => 2
  | notWritten _ => 3
  | notLoaded _ => 4
  | longNumber => 4

/-- The failure in words. -/
def message : Failure → String
  | unknownStyle name => Style.unknownMessage name
  | notLoaded error => "Failed to load schema: " ++ error.message
  | longNumber => "Failed to load schema: " ++ Text.longNumberMessage
  | notWritten path => "Failed to write " ++ path.toText

/-- The events that tell of a failure. -/
def events (failure : Failure) : List Event :=
  [.failure failure.message,
    .failure ("Generation failed with exit code " ++ toString failure.exitCode ++ ".")]

end Failure

/-- What a command line leads to. -/
structure Outcome where
  /-- The exit code. -/
  exitCode : Nat := 0
  /-- What goes to the standard output. -/
  output : String := ""
  /-- What is told about the command line on the standard error. -/
  remarks : String := ""
  /-- The events that are logged. -/
  events : List Event := []
  /-- A report to be shown on the standard error, and whether notes are wanted in it. -/
  report : Option (Report × Bool) := none
  /-- How the texts hold halves. -/
  holding : Holding := Holding.standard

/-- What goes to the standard error beside the log; `seconds` is the time that was taken. -/
def Outcome.errorText (outcome : Outcome) (seconds : String) : String :=
  outcome.remarks ++
    match outcome.report with
    | some (report, includeInfo) =>
      @Report.summary outcome.holding report seconds includeInfo ++ "\n"
    | none => ""

/-! ## Generations -/

/-- The events about options that do not exist. -/
def optionEvents (arguments : Arguments) : List Event :=
  (Options.parse arguments.options).2.map .unknownOption

/-- The report that is shown: one where more is to be told, with notes where much more is. -/
def shownReport (arguments : Arguments) (report : Report) : Option (Report × Bool) :=
  if arguments.quiet || arguments.verbosity == 0 then none
  else some (report, 2 ≤ arguments.verbosity)

/-- The outcome with nothing logged, if nothing is to be told. -/
def Outcome.hushed (arguments : Arguments) (outcome : Outcome) : Outcome :=
  if arguments.quiet then { outcome with events := [] } else outcome

/-- The characters of the texts that a schema is compared with. -/
def Arguments.characters (arguments : Arguments) : List Char :=
  arguments.schemas.toList ++ arguments.tables.toList

/-- What a generation makes before its result is delivered. -/
structure Made where
  /-- The report with the generated text. -/
  report : Report
  /-- The events. -/
  events : List Event

section Holdings

variable [holding : Holding]

/-- The outcome of a failure after some events. -/
def failed (events : List Event) (failure : Failure) : Outcome :=
  { exitCode := failure.exitCode, events := events ++ failure.events, holding := holding }

/-- What a generation makes from what is found at the path of the schema, or how it ends without
anything made. -/
def make (room : Room) (arguments : Arguments) (style : Style)
    (found : Except Breakdown (Option FileItem)) : Except (Except Breakdown Outcome) Made :=
  let before := optionEvents arguments
  match SchemaFile.schemaOf room (Path.ofText arguments.schema) found with
  | .error (.breakdown cause) => .error (.error cause)
  | .error error => .error (.ok (failed before (.notLoaded error)))
  | .ok schema =>
    let options := (Options.parse arguments.options).1
    let chosen := schema.select arguments.selection
    match hindrance? room style chosen with
    | some .deepArray => .error (.error (.tooDeep .arrayType))
    | some .longNumber =>
      .error (.ok (failed (before ++ eventsBeforeHindrance room chosen) .longNumber))
    | none =>
      .ok ⟨generate style chosen options, before ++ generationEvents style chosen options⟩

variable {m : Type → Type} [Monad m]

/-- Delivers what was made: to the output file if one is named, and else to the standard output. -/
def deliver (room : Room) (files : FileSystem m) (arguments : Arguments) (made : Made) :
    m (Except Breakdown Outcome) := do
  let done : Outcome :=
    { events := made.events, report := shownReport arguments made.report, holding := holding }
  if arguments.outfile.isEmpty then return .ok { done with output := made.report.output }
  else
    let path := Path.ofText arguments.outfile
    match ← files.replaceFile room path made.report.output with
    | .error cause => return .error cause
    | .ok true => return .ok done
    | .ok false => return .ok (failed done.events (.notWritten path))

/-- Carries out a generation in a style from what is found at the path of the schema. -/
def runFound (room : Room) (files : FileSystem m) (arguments : Arguments) (style : Style)
    (found : Except Breakdown (Option FileItem)) : m (Except Breakdown Outcome) :=
  match make room arguments style found with
  | .error result => return result
  | .ok made => deliver room files arguments made

end Holdings

section Files

variable {m : Type → Type} [Monad m]

/-- Carries out a generation in a style. -/
def runStyle (room : Room) (files : FileSystem m) (arguments : Arguments) (style : Style) :
    m (Except Breakdown Outcome) := do
  let path := Path.ofText arguments.schema
  let found ← files.look path
  let holding := SchemaFile.holdingFor room path arguments.characters found
  @runFound holding m _ room files arguments style found

/-- Carries out a generation. -/
def runArguments (room : Room) (files : FileSystem m) (arguments : Arguments) :
    m (Except Breakdown Outcome) := do
  match arguments.generator with
  | none => return .error .noStyleName
  | some name =>
    match Style.ofName? name with
    | none =>
      return .ok ((failed (optionEvents arguments) (.unknownStyle name)).hushed arguments)
    | some style => return (← runStyle room files arguments style).map (·.hushed arguments)

/-- Runs a command line. -/
def run (room : Room) (files : FileSystem m) (words : List String) :
    m (Except Breakdown Outcome) :=
  match readArguments words with
  | .error .help => return .ok { output := helpText }
  | .error .version => return .ok { output := versionText }
  | .error (.misuse misuse) =>
    let holding := Holding.apartFrom .standard (words.flatMap String.toList)
    return .ok { exitCode := 2, remarks := @Misuse.report holding misuse }
  | .ok arguments => runArguments room files arguments

end Files

end SchemaCodegen.CommandLine
