import SchemaCodegen.Text.Digits
import SchemaCodegen.Text.Listing

/-!
# Faults of a schema document

What can be wrong with a document that should describe a schema, and where. A fault has a code and a
message; its place is the path of keys and positions that leads to it from the root.
-/

namespace SchemaCodegen.Schema

open SchemaCodegen.Text

variable [Holding]

/-- One step of a path into a document. -/
inductive Step where
  /-- Into the value under a key. -/
  | key (name : String)
  /-- Into the item at a position. -/
  | index (position : Int)
  deriving DecidableEq, Repr

/-- A rule that ties several fields of a record together and that the record breaks. -/
inductive BrokenRule where
  /-- A column has identity options and is no identity column. -/
  | identityWithoutFlag (column : String)
  /-- A foreign key names no table. -/
  | foreignKeyWithoutTarget (name : String)
  /-- A constraint of another kind names a table. -/
  | targetWithoutForeignKey (name kind : String)
  /-- A foreign key has other numbers of columns on its two sides. -/
  | columnCountMismatch (name : String) (here there : Nat)
  /-- An index names a column twice. -/
  | repeatedIndexColumn (columns : List String)
  /-- A column's position does not come after that of the column before it. -/
  | positionNotIncreasing (table column : String) (position previous : Int)
  /-- A constraint names columns that the table does not have. -/
  | unknownConstraintColumns (constraint table : String) (missing : List String)
  /-- Two tables have the same schema and name. -/
  | repeatedTable (qualifiedName : String)
  deriving DecidableEq, Repr

/-- The rule in words. -/
def BrokenRule.message : BrokenRule → String
  | identityWithoutFlag column =>
    "Column '" ++ column ++ "' carries identity options but is_identity is false."
  | foreignKeyWithoutTarget name =>
    "Foreign key constraint '" ++ name ++ "' has no referenced table."
  | targetWithoutForeignKey name kind =>
    "Constraint '" ++ name ++ "' of type " ++ kind ++ " must not carry foreign key info."
  | columnCountMismatch name here there =>
    "Foreign key '" ++ name ++ "' maps " ++ toString here ++ " column(s) onto " ++
      toString there ++ " referenced column(s)."
  | repeatedIndexColumn columns => "Duplicate columns in index: " ++ showTexts columns
  | positionNotIncreasing table column position previous =>
    if isLongNumber position || isLongNumber previous then longNumberMessage
    else
      "Table '" ++ table ++ "': column '" ++ column ++ "' has ordinal position " ++
        toString position ++ ", expected > " ++ toString previous ++ "."
  | unknownConstraintColumns constraint table missing =>
    "Constraint '" ++ constraint ++ "' on table '" ++ table ++
      "' references non-existent columns: " ++ showTexts missing
  | repeatedTable qualifiedName => "Duplicate table: " ++ qualifiedName

/-- What is wrong at a place of a document. -/
inductive Cause where
  /-- A required field is absent. -/
  | missing
  /-- A key names no field. -/
  | extra
  /-- A key is not a text. -/
  | keyNotText
  /-- A text is wanted. -/
  | notText
  /-- A text holds half a pair by itself, or bytes are no text. -/
  | notUnicode
  /-- A text with a character is wanted. -/
  | emptyText
  /-- A whole number is wanted. -/
  | notInt
  /-- A number is not whole. -/
  | fractional
  /-- A text is not a whole number. -/
  | unreadableInt
  /-- A number is too large to be converted. -/
  | oversizedInt
  /-- A number is infinite or not a number. -/
  | notFinite
  /-- A number is below its bound. -/
  | below (bound : Int)
  /-- A truth value is wanted. -/
  | notTruth
  /-- A text or a number is not a truth value. -/
  | unreadableTruth
  /-- A list is wanted. -/
  | notList
  /-- A list with an item is wanted. -/
  | emptyList
  /-- One of several names is wanted. -/
  | notOneOf (names : List String)
  /-- A mapping that describes the given kind of record is wanted. -/
  | notRecord (kind : String)
  /-- The fields do not fit together. -/
  | broken (rule : BrokenRule)
  deriving DecidableEq, Repr

/-- Names in quotes, separated by commas, with `or` before the last. -/
def alternatives : List String → String
  | [] => ""
  | [name] => "'" ++ name ++ "'"
  | [name, last] => "'" ++ name ++ "' or '" ++ last ++ "'"
  | name :: names => "'" ++ name ++ "', " ++ alternatives names

namespace Cause

/-- The code of a cause. -/
def code : Cause → String
  | missing => "missing"
  | extra => "extra_forbidden"
  | keyNotText => "invalid_key"
  | notText => "string_type"
  | notUnicode => "string_unicode"
  | emptyText => "string_too_short"
  | notInt => "int_type"
  | fractional => "int_from_float"
  | unreadableInt => "int_parsing"
  | oversizedInt => "int_parsing_size"
  | notFinite => "finite_number"
  | below _ => "greater_than_equal"
  | notTruth => "bool_type"
  | unreadableTruth => "bool_parsing"
  | notList => "tuple_type"
  | emptyList => "too_short"
  | notOneOf _ => "enum"
  | notRecord _ => "model_type"
  | broken _ => "value_error"

/-- The cause in words. -/
def message : Cause → String
  | missing => "Field required"
  | extra => "Extra inputs are not permitted"
  | keyNotText => "Keys should be strings"
  | notText => "Input should be a valid string"
  | notUnicode =>
    "Input should be a valid string, unable to parse raw data as a unicode string"
  | emptyText => "String should have at least 1 character"
  | notInt => "Input should be a valid integer"
  | fractional => "Input should be a valid integer, got a number with a fractional part"
  | unreadableInt => "Input should be a valid integer, unable to parse string as an integer"
  | oversizedInt => "Unable to parse input string as an integer, exceeded maximum size"
  | notFinite => "Input should be a finite number"
  | below bound => "Input should be greater than or equal to " ++ toString bound
  | notTruth => "Input should be a valid boolean"
  | unreadableTruth => "Input should be a valid boolean, unable to interpret input"
  | notList => "Input should be a valid tuple"
  | emptyList => "Tuple should have at least 1 item after validation, not 0"
  | notOneOf names => "Input should be " ++ alternatives names
  | notRecord kind => "Input should be a valid dictionary or instance of " ++ kind
  | broken rule => "Value error, " ++ withoutHalves rule.message

end Cause

/-- A fault: what is wrong, and where. -/
structure Fault where
  /-- The path to the place, from the root. -/
  path : List Step
  /-- What is wrong there. -/
  cause : Cause
  deriving DecidableEq, Repr

/-- The fault as seen from one step further out. -/
def Fault.under (step : Step) (fault : Fault) : Fault :=
  { fault with path := step :: fault.path }

end SchemaCodegen.Schema
