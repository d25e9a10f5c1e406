import SchemaCodegen.Schema.Reading
import SchemaCodegen.Text.Blank
import SchemaCodegen.Text.Lines
import SchemaCodegen.Text.Split

/-!
# Options of the generator

The closed set of switches that change what is generated. They are given as a list of words
separated by commas; a word that names no switch is reported and otherwise ignored. They may also
be given as a mapping from the names of switches to truth values.
-/

namespace SchemaCodegen

open SchemaCodegen.Text

/-- The switches of the generator, all off unless given. The last two are accepted and change
nothing, because no relationships are generated. -/
structure Options where
  /-- No indexes. -/
  noIndexes : Bool := false
  /-- No constraints. -/
  noConstraints : Bool := false
  /-- No comments. -/
  noComments : Bool := false
  /-- Class names in the singular. -/
  useSingular : Bool := false
  /-- No inheritance between joined tables. -/
  noJoined : Bool := false
  /-- No relationships in both directions. -/
  noBidirectional : Bool := false
  deriving DecidableEq, Repr

namespace Options

/-- The switches by name, in order, each with its state. -/
def switches (options : Options) : List (String × Bool) :=
  [("noindexes", options.noIndexes), ("noconstraints", options.noConstraints),
    ("nocomments", options.noComments), ("use_inflect", options.useSingular),
    ("nojoined", options.noJoined), ("nobidi", options.noBidirectional)]

/-- The options with one more switch on, if the word names a switch. -/
def switchOn? (options : Options) (word : String) : Option Options :=
  if word == "noindexes" then some { options with noIndexes := true }
  else if word == "noconstraints" then some { options with noConstraints := true }
  else if word == "nocomments" then some { options with noComments := true }
  else if word == "use_inflect" then some { options with useSingular := true }
  else if word == "nojoined" then some { options with noJoined := true }
  else if word == "nobidi" then some { options with noBidirectional := true }
  else none

/-- The words of a list separated by commas, without blanks around them and without empty ones. -/
def commaWords (text : String) : List String :=
  ((splitAll ',' text.toList).map fun part => String.ofList (strip part)).filter
    fun word => !word.isEmpty

/-- Switches on what the words name, and collects the words that name nothing. -/
def ofWords (options : Options) : List String → Options × List String
  | [] => (options, [])
  | word :: words =>
    match options.switchOn? word with
    | some more => ofWords more words
    | none =>
      let (final, unknown) := ofWords options words
      (final, word :: unknown)

/-- The options that a text gives, and its unknown words in order. -/
def parse (text : String) : Options × List String :=
  ofWords {} (commaWords text)

/-- A short description: the switches that are on. -/
def describe (options : Options) : String :=
  let on := (options.switches.filter (·.2)).map (·.1)
  "<GeneratorOptions " ++ (if on.isEmpty then "-" else String.intercalate "," on) ++ ">"

/-! ## Options as a record -/

section Record

open SchemaCodegen.Schema

variable [Holding]

/-- The fields of options. -/
def fields (_ : Entries) : List String :=
  ["noindexes", "noconstraints", "nocomments", "use_inflect", "nojoined", "nobidi"]

/-- Reads options. -/
def read : Document → Checked Options :=
  readRecord "GeneratorOptions" fields fun entries =>
    (Checked.ok Options.mk)
      |>.ap (optional entries "noindexes" false readTruth)
      |>.ap (optional entries "noconstraints" false readTruth)
      |>.ap (optional entries "nocomments" false readTruth)
      |>.ap (optional entries "use_inflect" false readTruth)
      |>.ap (optional entries "nojoined" false readTruth)
      |>.ap (optional entries "nobidi" false readTruth)

/-- Options as a document. -/
def toDocument (options : Options) : Document :=
  Document.record (options.switches.map fun switch => (switch.1, .truth switch.2))

end Record

end Options

end SchemaCodegen
