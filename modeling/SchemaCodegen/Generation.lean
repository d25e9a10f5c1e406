import SchemaCodegen.Audit
import SchemaCodegen.Log
import SchemaCodegen.Schema.Selection
import SchemaCodegen.Style

/-!
# Generating a module from a schema

A schema is audited and written in the chosen style. The report holds the text with its measures and
the findings; the events are the warnings among the findings and, in the declarative style, a remark
for each class without a primary key. A schema that is loaded may still hold a number that is too
long to be written, or an array type that is too deep to be gone through; the first of these
hindrances ends the generation.
-/

namespace SchemaCodegen

open SchemaCodegen.Text

variable [Holding]

/-- The result of a generation. -/
structure Report where
  /-- The generated text. -/
  output : String := ""
  /-- The name of the style. -/
  generator : String := ""
  /-- The number of tables. -/
  tableCount : Int := 0
  /-- The number of lines of the text. -/
  lineCount : Int := 0
  /-- The findings about the schema. -/
  findings : Findings := []

namespace Report

/-- The warnings in words. -/
def warnings (report : Report) : List String :=
  report.findings.warnings.map Finding.describe

/-- A line across a summary. -/
def rule (c : Char) : String :=
  String.ofList (List.replicate 60 c)

/-- The part of a summary that lists findings: there if there are warnings, or any finding at all
where notes are wanted. -/
def findingLines (report : Report) (includeInfo : Bool) : List String :=
  if report.findings.hasWarnings || (includeInfo && !List.isEmpty report.findings) then
    [rule '─', report.findings.report includeInfo]
  else []

/-- A summary for people; `seconds` is the time that the generation took. -/
def summary (report : Report) (seconds : String) (includeInfo : Bool) : String :=
  joinLines ([
      rule '=',
      "  uvg - Generation Report",
      rule '=',
      "  Generator:        " ++ report.generator,
      "  Tables:           " ++ toString report.tableCount,
      "  Lines generated:  " ++ signedThousands report.lineCount,
      "  Total time:       " ++ seconds ++ "s"] ++
    report.findingLines includeInfo ++ [rule '='])

end Report

/-! ## Generations without hindrance -/

/-- The events that tell of the warnings about a schema. -/
def auditEvents (schema : Schema) : List Event :=
  (Audit.full schema).warnings.map Event.finding

/-- The events of a generation in the given style. -/
def generationEvents (style : Style) (schema : Schema) (options : Options) : List Event :=
  auditEvents schema ++
    match style with
    | .declarative =>
      (Declarative.classesWithoutKey schema options).map fun pair =>
        Event.classWithoutKey pair.1 pair.2
    | .tables => []

/-- The text of a schema in the given style. -/
def generatedText (style : Style) (schema : Schema) (options : Options) : String :=
  (style.toModule schema options).render

/-- The report on a schema in the given style. -/
def generate (style : Style) (schema : Schema) (options : Options) : Report :=
  let output := generatedText style schema options
  { output := output
    generator := style.name
    tableCount := schema.tables.length
    lineCount := countLines output
    findings := Audit.full schema }

/-! ## Hindrances -/

/-- Why a schema that is loaded cannot be written. -/
inductive Hindrance where
  /-- A number has too many digits to be written. -/
  | longNumber
  /-- Too many arrays lie inside each other. -/
  | deepArray
  deriving DecidableEq, Repr

/-- What hinders the making of a column's type. -/
def typeHindrance? (room : Room) (use : TypeUse) (dialect : Dialect) (column : Column) :
    Option Hindrance :=
  let type := ColumnType.ofColumn column dialect
  if room.arrays use column < type.depth then some .deepArray
  else if type.typeExpr.hasLongNumber then some .longNumber
  else none

/-- What hinders the writing of a column's identity. -/
def identityHindrance? (dialect : Dialect) (column : Column) : Option Hindrance :=
  if (Code.identityDeclaration? column dialect).any Code.Expr.hasLongNumber then some .longNumber
  else none

/-- What hinders the writing of a column in the given style. -/
def columnHindrance? (room : Room) (style : Style) (dialect : Dialect) (column : Column) :
    Option Hindrance :=
  (typeHindrance? room style.typeUse dialect column).or
    (match style with
    | .declarative => none
    | .tables => identityHindrance? dialect column)

/-- The first hindrance while a schema is audited. -/
def auditHindrance? (room : Room) (schema : Schema) : Option Hindrance :=
  (schema.tables.flatMap Table.columns).findSome? (typeHindrance? room .finding schema.dialect)

/-- The first hindrance while a schema is written in the given style. -/
def writingHindrance? (room : Room) (style : Style) (schema : Schema) : Option Hindrance :=
  ((style.tablesInOrder schema).flatMap Table.columns).findSome?
    (columnHindrance? room style schema.dialect)

/-- The first hindrance to a generation. -/
def hindrance? (room : Room) (style : Style) (schema : Schema) : Option Hindrance :=
  (auditHindrance? room schema).or (writingHindrance? room style schema)

/-- The events that are told before a hindrance: none while the schema is audited, the warnings
while it is written. -/
def eventsBeforeHindrance (room : Room) (schema : Schema) : List Event :=
  if (auditHindrance? room schema).isSome then [] else auditEvents schema

end SchemaCodegen
