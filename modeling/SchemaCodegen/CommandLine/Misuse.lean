import SchemaCodegen.CommandLine.Switch
import SchemaCodegen.Text.Listing

/-!
# Misuse of the command line

What can be wrong with the words of a command line, and the words for it.
-/

namespace SchemaCodegen.CommandLine

open SchemaCodegen.Text (Holding)

variable [Holding]

/-- What is wrong with a command line. -/
inductive Misuse where
  /-- A word may stand for several switches. -/
  | ambiguous (word : String) (candidates : List Switch)
  /-- A switch has no value. -/
  | valueMissing (switch : Switch)
  /-- A switch that takes no value has one. -/
  | valueIgnored (switch : Switch) (value : String)
  /-- No schema file is named. -/
  | schemaMissing
  /-- Some words have no meaning. -/
  | unrecognized (words : List String)
  deriving DecidableEq, Repr

/-- The misuse in words. -/
def Misuse.message : Misuse → String
  | ambiguous word candidates =>
    "ambiguous option: " ++ word ++ " could match " ++
      String.intercalate ", " (candidates.map Switch.long)
  | valueMissing switch => "argument " ++ switch.title ++ ": expected one argument"
  | valueIgnored switch value =>
    "argument " ++ switch.title ++ ": ignored explicit argument " ++ Text.showText value
  | schemaMissing => "the following arguments are required: SCHEMA_FILE"
  | unrecognized words => "unrecognized arguments: " ++ String.intercalate " " words

end SchemaCodegen.CommandLine
