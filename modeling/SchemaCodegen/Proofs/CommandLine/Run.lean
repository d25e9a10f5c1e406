import SchemaCodegen.CommandLine.Run
import SchemaCodegen.Proofs.FileSystem.Replace
import SchemaCodegen.Proofs.Generation
import SchemaCodegen.Proofs.Style.Written

/-!
# Proofs: how a command line ends

A generation ends with one of four exit codes, and which one is decided by the first thing that goes
wrong. With the code 0 the text of the report has been delivered; with any other code nothing has
been said and no file has changed. There are values that the program cannot hold, go through or
write at all: for them there is no exit code, but no file has changed either.
-/

namespace SchemaCodegen.CommandLine

open Disk (FailsAt Unwritable)
open SchemaCodegen.Text (Holding halfCount hasLoneHalf isHalf privateCount)

variable (room : Room) (arguments : Arguments) (disk : Disk)

namespace Arguments

/-- The style that is asked for, if there is one of the given name. -/
def style? : Option Style :=
  arguments.generator.bind Style.ofName?

/-- The path of the schema. -/
def source : Path :=
  Path.ofText arguments.schema

/-- The path of the output. -/
def target : Path :=
  Path.ofText arguments.outfile

/-- The holding under which the schema on a disk is read. -/
@[irreducible] def holding : Holding :=
  SchemaFile.holdingFor room arguments.source arguments.characters (disk.lookUp arguments.source)

/-- The schema that is on a disk, or why none is loaded from it. -/
def load : Except LoadError Schema :=
  @SchemaFile.schemaOf (arguments.holding room disk) room arguments.source
    (disk.lookUp arguments.source)

/-- The style is known and the schema is loaded; `chosen` is what is wanted of it. -/
def Chooses (style : Style) (chosen : Schema) : Prop :=
  arguments.style? = some style ∧
    ∃ schema, arguments.load room disk = .ok schema ∧ schema.select arguments.selection = chosen

/-- This is what first keeps the wanted tables from being written. -/
def MeetsHindrance (hindrance : Hindrance) : Prop :=
  ∃ style chosen, arguments.Chooses room disk style chosen ∧
    hindrance? room style chosen = some hindrance

/-- The wanted tables can be written, and this is the report on them. -/
def Makes (report : Report) : Prop :=
  ∃ style chosen, arguments.Chooses room disk style chosen ∧ chosen.IsWritable room style ∧
    report = @generate (arguments.holding room disk) style chosen
      (Options.parse arguments.options).1

/-- What keeps a generation from having an exit code. -/
inductive BreaksOff : Prop where
  /-- The switch for the style is left without a value. -/
  | noStyleName (hname : arguments.generator = none)
  /-- The file of the schema, or its path, has something in it that cannot be held or gone
  through. -/
  | loading {cause : Breakdown} (hstyle : arguments.style? ≠ none)
      (hload : arguments.load room disk = .error (.breakdown cause))
  /-- There is no room for the arrays of a column. -/
  | making (hhindrance : arguments.MeetsHindrance room disk .deepArray)
  /-- The report or the path of the output has something in it that no file can have, or too many
  directories are missing. -/
  | writing {report : Report} (hmakes : arguments.Makes room disk report)
      (hfile : arguments.outfile ≠ "")
      (hunwritable : @Unwritable (arguments.holding room disk) room disk arguments.target
        report.output)

end Arguments

section Characters

variable {room arguments disk} {content : ByteArray} {text : List Char}

theorem Arguments.holding_eq
    (hfile : disk.lookUp arguments.source = .ok (some (.file content)))
    (htext : SchemaFile.readText content = .ok text) :
    arguments.holding room disk = .apartFrom .standard
      (arguments.characters ++ SchemaFile.charactersIn room arguments.source text) := by
  rw [Arguments.holding, hfile]
  unfold SchemaFile.holdingFor
  dsimp only
  rw [htext]

/-- No character that the file of the schema has of its own is taken for a half. -/
theorem Arguments.held?_holding
    (hfile : disk.lookUp arguments.source = .ok (some (.file content)))
    (htext : SchemaFile.readText content = .ok text) {c : Char} (hc : c ∈ text) :
    @Holding.held? (arguments.holding room disk) c = none := by
  have hown : c ∈ SchemaFile.charactersIn room arguments.source text := by
    unfold SchemaFile.charactersIn
    split
    · exact hc
    · exact List.mem_append_left _ hc
  rw [holding_eq hfile htext]
  exact Holding.held?_apartFrom (List.mem_append_right _ hown)

/-- Every half is held, unless the file brings nearly all private characters along. -/
theorem Arguments.isSome_hold?_holding
    (hfile : disk.lookUp arguments.source = .ok (some (.file content)))
    (htext : SchemaFile.readText content = .ok text)
    (hlength : (arguments.characters ++
      SchemaFile.charactersIn room arguments.source text).length + halfCount ≤ privateCount)
    {code : Nat} (hhalf : isHalf code = true) :
    (@Holding.hold? (arguments.holding room disk) code).isSome = true := by
  have hstandard : ∀ code, isHalf code = true → (Holding.standard.hold? code).isSome = true := by
    intro code hcode
    show (if isHalf code then some _ else none).isSome = true
    rw [if_pos hcode, Option.isSome_some]
  rw [holding_eq hfile htext]
  exact Holding.isSome_hold?_apartFrom hlength hstandard hhalf

end Characters

/-! ## Each ending -/

/-- How a generation ends, and why. -/
inductive Ending : Except Breakdown Outcome → Disk → Prop where
  /-- It breaks off. -/
  | brokenOff {cause : Breakdown} {after : Disk} (h : arguments.BreaksOff room disk)
      (hkeeps : disk.Keeps after) : Ending (.error cause) after
  /-- No style has the given name. -/
  | unknownStyle {outcome : Outcome} (hname : arguments.generator ≠ none)
      (hstyle : arguments.style? = none) (hcode : outcome.exitCode = 2)
      (houtput : outcome.output = "") : Ending (.ok outcome) disk
  /-- No schema is loaded. -/
  | notLoaded {outcome : Outcome} {error : LoadError} (hstyle : arguments.style? ≠ none)
      (hload : arguments.load room disk = .error error)
      (hcause : ∀ cause, error ≠ .breakdown cause)
      (hcode : outcome.exitCode = 4) (houtput : outcome.output = "") : Ending (.ok outcome) disk
  /-- A number is too long to be written. -/
  | longNumber {outcome : Outcome}
      (hhindrance : arguments.MeetsHindrance room disk .longNumber)
      (hcode : outcome.exitCode = 4) (houtput : outcome.output = "") : Ending (.ok outcome) disk
  /-- The report is printed. -/
  | printed {outcome : Outcome} {report : Report} (hmakes : arguments.Makes room disk report)
      (hfile : arguments.outfile = "") (hcode : outcome.exitCode = 0)
      (houtput : outcome.output = report.output) : Ending (.ok outcome) disk
  /-- The report is written to a file, or one of the steps fails. -/
  | written {outcome : Outcome} {report : Report} {done : Bool} {after : Disk}
      (hmakes : arguments.Makes room disk report) (hfile : arguments.outfile ≠ "")
      (hcode : outcome.exitCode = if done then 0 else 3) (houtput : outcome.output = "")
      (hreplacement : @Disk.Replacement (arguments.holding room disk) room disk arguments.target
        report.output (.ok done) after) : Ending (.ok outcome) after

theorem exitCode_hushed (arguments : Arguments) (outcome : Outcome) :
    (outcome.hushed arguments).exitCode = outcome.exitCode := by
  rw [Outcome.hushed]
  split <;> rfl

theorem output_hushed (arguments : Arguments) (outcome : Outcome) :
    (outcome.hushed arguments).output = outcome.output := by
  rw [Outcome.hushed]
  split <;> rfl

variable {room : Room} {arguments : Arguments} {disk after : Disk}

/-- Whether events are logged does not matter to how a generation ends. -/
theorem Ending.hushed {result : Except Breakdown Outcome}
    (h : Ending room arguments disk result after) :
    Ending room arguments disk (result.map (·.hushed arguments)) after := by
  have hcode := exitCode_hushed arguments
  have houtput := output_hushed arguments
  cases h with
  | brokenOff h hkeeps => exact .brokenOff h hkeeps
  | unknownStyle hname hstyle h h' =>
    exact .unknownStyle hname hstyle ((hcode _).trans h) ((houtput _).trans h')
  | notLoaded hstyle hload hcause h h' =>
    exact .notLoaded hstyle hload hcause ((hcode _).trans h) ((houtput _).trans h')
  | longNumber hhindrance h h' =>
    exact .longNumber hhindrance ((hcode _).trans h) ((houtput _).trans h')
  | printed hmakes hfile h h' =>
    exact .printed hmakes hfile ((hcode _).trans h) ((houtput _).trans h')
  | written hmakes hfile h h' hreplacement =>
    exact .written hmakes hfile ((hcode _).trans h) ((houtput _).trans h') hreplacement

section Make

variable (holding : Holding) {style : Style} {found : Except Breakdown (Option FileItem)}

end Make

section Codes

variable {style : Style} {chosen : Schema} {report : Report} {hindrance : Hindrance}

theorem Arguments.Chooses.unique {style' : Style} {chosen' : Schema}
    (h : arguments.Chooses room disk style chosen)
    (h' : arguments.Chooses room disk style' chosen') : style' = style ∧ chosen' = chosen := by
  obtain ⟨hstyle, schema, hload, rfl⟩ := h
  obtain ⟨hstyle', schema', hload', rfl⟩ := h'
  obtain rfl := Except.ok.inj (hload.symm.trans hload')
  exact ⟨Option.some.inj (hstyle'.symm.trans hstyle), rfl⟩

theorem Arguments.Chooses.style?_ne (h : arguments.Chooses room disk style chosen) :
    arguments.style? ≠ none := by
  rw [h.1]
  nofun

theorem Arguments.Chooses.load_ne (h : arguments.Chooses room disk style chosen)
    {error : LoadError} : arguments.load room disk ≠ .error error := by
  obtain ⟨_, schema, hload, _⟩ := h
  rw [hload]
  nofun

theorem Arguments.MeetsHindrance.unique {other : Hindrance}
    (h : arguments.MeetsHindrance room disk hindrance)
    (h' : arguments.MeetsHindrance room disk other) : other = hindrance := by
  obtain ⟨style, chosen, hchooses, hfirst⟩ := h
  obtain ⟨style', chosen', hchooses', hfirst'⟩ := h'
  obtain ⟨rfl, rfl⟩ := hchooses.unique hchooses'
  exact Option.some.inj (hfirst'.symm.trans hfirst)

theorem Arguments.Makes.unique {other : Report} (h : arguments.Makes room disk report)
    (h' : arguments.Makes room disk other) : other = report := by
  obtain ⟨style, chosen, hchooses, _, rfl⟩ := h
  obtain ⟨style', chosen', hchooses', _, rfl⟩ := h'
  obtain ⟨rfl, rfl⟩ := hchooses.unique hchooses'
  rfl

theorem Arguments.Makes.style?_ne (h : arguments.Makes room disk report) :
    arguments.style? ≠ none := by
  obtain ⟨_, _, hchooses, _⟩ := h
  exact hchooses.style?_ne

theorem Arguments.Makes.load_ne (h : arguments.Makes room disk report) {error : LoadError} :
    arguments.load room disk ≠ .error error := by
  obtain ⟨_, _, hchooses, _⟩ := h
  exact hchooses.load_ne

theorem Arguments.MeetsHindrance.style?_ne (h : arguments.MeetsHindrance room disk hindrance) :
    arguments.style? ≠ none := by
  obtain ⟨_, _, hchooses, _⟩ := h
  exact hchooses.style?_ne

theorem Arguments.MeetsHindrance.load_ne (h : arguments.MeetsHindrance room disk hindrance)
    {error : LoadError} : arguments.load room disk ≠ .error error := by
  obtain ⟨_, _, hchooses, _⟩ := h
  exact hchooses.load_ne

variable {outcome : Outcome}

end Codes

end SchemaCodegen.CommandLine
