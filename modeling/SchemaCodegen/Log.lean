import SchemaCodegen.Finding

/-!
# Log entries

What is reported while a schema is processed, beside the result: entries with a level, the part of
the program they come from, and a message. What an entry tells is an `Event`; its words are made in
one place.
-/

namespace SchemaCodegen

/-- How serious an entry is. -/
inductive LogLevel where
  /-- The work goes on. -/
  | warning
  /-- The work ends. -/
  | error
  deriving DecidableEq, Repr

/-- The name of a level. -/
def LogLevel.name : LogLevel → String
  | warning => "WARNING"
  | error => "ERROR"

/-- What an entry tells. -/
inductive Event where
  /-- A word among the options names no option. -/
  | unknownOption (word : String)
  /-- A finding was made that is a warning. -/
  | finding (finding : Finding)
  /-- A class stands for a table without a primary key. -/
  | classWithoutKey (className table : String)
  /-- The program ends because of something. -/
  | failure (message : String)

namespace Event

/-- How serious the event is. -/
def level : Event → LogLevel
  | failure _ => .error
  | _ => .warning

/-- The part of the program that reports the event. -/
def source : Event → String
  | unknownOption _ => "uvg.models"
  | finding _ => "uvg.generator"
  | classWithoutKey _ _ => "uvg.declarative"
  | failure _ => "uvg"

/-- The event in words. -/
def message : Event → String
  | unknownOption word => "Unknown generator option: " ++ word
  | finding remark => "  ⚠ " ++ remark.describe
  | classWithoutKey name table =>
    "Class " ++ name ++ " for " ++ table ++
      " has no primary key; SQLAlchemy will refuse to map it until one is declared."
  | failure words => words

end Event

end SchemaCodegen
