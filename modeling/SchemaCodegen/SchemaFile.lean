import SchemaCodegen.FileSystem.Basic
import SchemaCodegen.Json.Reader
import SchemaCodegen.Schema.Dump
import SchemaCodegen.Text.Case
import SchemaCodegen.Text.Lines
import SchemaCodegen.Text.Utf8
import SchemaCodegen.Yaml

/-!
# Schema files

A schema dump is kept in a file, in JSON if the name of the file says so and in YAML otherwise. At
its top level it is a mapping. Everything that can keep a schema from being loaded is a `LoadError`,
also what breaks the run off. The characters that hold halves while a file is read are none of its
own.
-/

namespace SchemaCodegen

open SchemaCodegen.Text

/-- A format of schema files. -/
inductive FileFormat where
  /-- JSON. -/
  | json
  /-- YAML. -/
  | yaml
  deriving DecidableEq, Repr

/-- The format of the file at a path. -/
def FileFormat.ofPath (path : Path) : FileFormat :=
  if lower path.extension == ".json" then .json else .yaml

/-- What a format calls a document that a dump has to be. -/
def FileFormat.wanted : FileFormat → String
  | json => "JSON object"
  | yaml => "YAML mapping"

/-- Why a schema cannot be loaded. -/
inductive LoadError where
  /-- Nothing is there. -/
  | missing (path : Path)
  /-- What is there is no file. -/
  | noFile (path : Path)
  /-- The bytes are no text. -/
  | noText (flaw : Utf8.Flaw)
  /-- The text is no JSON. -/
  | invalidJson (path : Path) (cause : Json.Cause) (place : String)
  /-- The text is no YAML. -/
  | invalidYaml (path : Path)
  /-- The text holds a value that does not exist. -/
  | badValue (message : String)
  /-- The document is no mapping. -/
  | noMapping (format : FileFormat) (kind : String)
  /-- The document gives no schema. -/
  | noSchema (error : Schema.DumpError)
  /-- Something that breaks the run off. -/
  | breakdown (cause : Breakdown)

namespace LoadError

variable [Holding]

/-- The error in words; the faults of a schema are listed apart. -/
def message : LoadError → String
  | missing path => "Schema file not found: " ++ path.toText
  | noFile path => "Schema path is not a file: " ++ path.toText
  | noText flaw => flaw.message
  | invalidJson path cause place =>
    "Invalid JSON in " ++ path.toText ++ ": " ++ cause.message ++ ": " ++ place
  | invalidYaml path => "Invalid YAML in " ++ path.toText
  | badValue words => words
  | noMapping format kind =>
    "Expected a " ++ format.wanted ++ " at top level, got " ++ kind ++ "."
  | noSchema error => error.message
  | breakdown cause => cause.message

/-- The error that a flaw of a JSON text is. -/
def ofJsonFlaw (path : Path) (text : List Char) : Json.Flaw → LoadError
  | .badAt cause position => .invalidJson path cause (Json.describePosition text position)
  | .tooManyDigits count => .badValue (Json.tooManyDigitsMessage count)
  | .breakdown cause => .breakdown cause

/-- The error that a flaw of a YAML text is. -/
def ofYamlFlaw (path : Path) (flaw : Yaml.Flaw) : LoadError :=
  match flaw with
  | .breakdown cause => .breakdown cause
  | other =>
    match other.message? with
    | some words => .badValue words
    | none => .invalidYaml path

end LoadError

namespace SchemaFile

/-- The text of a file, its ends of lines made line feeds. -/
def readText (content : ByteArray) : Except LoadError (List Char) :=
  match Utf8.decode content.toList with
  | .error flaw => .error (.noText flaw)
  | .ok cs => .ok (unifyBreaks cs)

section Reading

variable [Holding]

/-- The document of a text in a format. -/
def parse (room : Room) (path : Path) (text : List Char) :
    FileFormat → Except LoadError Document
  | .json =>
    match Json.read room.json text with
    | .error flaw => .error (.ofJsonFlaw path text flaw)
    | .ok document => .ok document
  | .yaml =>
    match Yaml.read room.yaml text with
    | .error flaw => .error (.ofYamlFlaw path flaw)
    | .ok document => .ok document

/-- The mapping of a file with the given bytes. -/
def readMapping (room : Room) (path : Path) (content : ByteArray) :
    Except LoadError Document := do
  let format := FileFormat.ofPath path
  match ← parse room path (← readText content) format with
  | .mapping entries => return .mapping entries
  | other => throw (.noMapping format other.kindName)

/-- The mapping of what is found at a path. -/
def mappingOf (room : Room) (path : Path) :
    Except Breakdown (Option FileItem) → Except LoadError Document
  | .error cause => .error (.breakdown cause)
  | .ok none => .error (.missing path)
  | .ok (some .directory) => .error (.noFile path)
  | .ok (some (.file content)) => readMapping room path content

/-- The schema of what is found at a path. -/
def schemaOf (room : Room) (path : Path) (found : Except Breakdown (Option FileItem)) :
    Except LoadError Schema := do
  match Schema.ofDump (← mappingOf room path found) with
  | .ok schema => return schema
  | .error error => throw (.noSchema error)

end Reading

/-! ## Holdings of files -/

/-- The characters that the text of a file brings along: its own, and those of the document in it,
which may be escapes in the text. -/
def charactersIn (room : Room) (path : Path) (text : List Char) : List Char :=
  match @parse (.apartFrom .aside text) room path text (FileFormat.ofPath path) with
  | .error _ => text
  | .ok document => text ++ document.characters

/-- The holding under which what is found at a path is read, beside texts with the given
characters. -/
@[irreducible] def holdingFor (room : Room) (path : Path) (beside : List Char)
    (found : Except Breakdown (Option FileItem)) : Holding :=
  match found with
  | .ok (some (.file content)) =>
    match readText content with
    | .error _ => .apartFrom .standard beside
    | .ok text => .apartFrom .standard (beside ++ charactersIn room path text)
  | _ => .apartFrom .standard beside

end SchemaFile

end SchemaCodegen
