import SchemaCodegen.Document.Listing
import SchemaCodegen.Text.Lines

/-!
# Findings

A finding is a remark about a schema that does not stand in the way of generating code: a warning or
a note, with a code, a message and details. Findings are collected in order and can be summed up and
listed.
-/

namespace SchemaCodegen

open SchemaCodegen.Text (Holding)

variable [Holding]

/-- How much a finding matters. -/
inductive Severity where
  /-- Generated code may not work as it is. -/
  | warning
  /-- Something worth knowing. -/
  | info
  deriving DecidableEq, Repr

/-- The name of a severity. -/
def Severity.name : Severity → String
  | warning => "warning"
  | info => "info"

/-- The name of a severity in capitals. -/
def Severity.label : Severity → String
  | warning => "WARNING"
  | info => "INFO"

/-- The sign that a severity has in a report. -/
def Severity.sign : Severity → String
  | warning => "⚠️"
  | info => "ℹ️"

/-- A remark about a schema. -/
structure Finding where
  /-- How much it matters. -/
  severity : Severity
  /-- The code of its kind. -/
  code : String
  /-- What is remarked. -/
  message : String
  /-- Details by name, in order. -/
  details : List (String × Document) := []

namespace Finding

/-- Whether the finding is a warning. -/
def isWarning (finding : Finding) : Bool :=
  finding.severity == .warning

/-- The finding in one line. -/
def describe (finding : Finding) : String :=
  "[" ++ finding.severity.label ++ "] " ++ finding.code ++ ": " ++ finding.message

/-- The line of a report that shows one detail. -/
def detailLine (detail : String × Document) : String :=
  "       " ++ detail.1 ++ ": " ++ detail.2.display

/-- The lines of a report that show the finding. -/
def reportLines (finding : Finding) : List String :=
  ("  " ++ finding.severity.sign ++ " [" ++ finding.code ++ "] " ++ finding.message) ::
    finding.details.map detailLine

end Finding

/-- Findings in the order in which they were made. -/
abbrev Findings := List Finding

namespace Findings

/-- The warnings, in order. -/
def warnings (findings : Findings) : Findings :=
  List.filter Finding.isWarning findings

/-- How many warnings there are. -/
def warningCount (findings : Findings) : Nat :=
  findings.warnings.length

/-- Whether there is a warning. -/
def hasWarnings (findings : Findings) : Bool :=
  List.any findings Finding.isWarning

/-- The findings of which a report shows something: warnings, and notes where they are wanted. -/
def shown (findings : Findings) (includeInfo : Bool) : Findings :=
  List.filter (fun finding => includeInfo || finding.isWarning) findings

/-- The findings in one sentence. -/
def summary (findings : Findings) : String :=
  "Validation: " ++ toString findings.warningCount ++ " warning(s), " ++
    toString findings.length ++ " total item(s)."

/-- A short description. -/
def describe (findings : Findings) : String :=
  "<ValidationResult " ++ findings.summary ++ ">"

/-- The summary, an empty line and the shown findings with their details. -/
def report (findings : Findings) (includeInfo : Bool) : String :=
  Text.joinLines (findings.summary :: "" ::
    (findings.shown includeInfo).flatMap Finding.reportLines)

end Findings

end SchemaCodegen
