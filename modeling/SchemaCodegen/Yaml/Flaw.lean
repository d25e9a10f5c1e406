import SchemaCodegen.Breakdown
import SchemaCodegen.Json.Flaw
import SchemaCodegen.Moment
import SchemaCodegen.Text.Listing

/-!
# Flaws of a YAML text

A text that breaks the rules of the format is malformed, and nothing more is told about it. A text
that follows them may still hold a value that does not exist, such as a date in a thirteenth month;
such a flaw has words of its own. A few values break the run off.
-/

namespace SchemaCodegen.Yaml

open SchemaCodegen.Text

variable [Holding]

/-- A part of a date or a time that is out of its range. -/
inductive DateFault where
  /-- The year. -/
  | year (value : Nat)
  /-- The month. -/
  | month
  /-- The day. -/
  | day
  /-- The hour. -/
  | hour
  /-- The minute. -/
  | minute
  /-- The second. -/
  | second
  /-- The distance from universal time, in minutes. -/
  | offset (minutes : Int)
  deriving DecidableEq, Repr

/-- The words for a part that is out of its range. -/
def DateFault.message : DateFault → String
  | year value => "year " ++ toString value ++ " is out of range"
  | month => "month must be in 1..12"
  | day => "day is out of range for month"
  | hour => "hour must be in 0..23"
  | minute => "minute must be in 0..59"
  | second => "second must be in 0..59"
  | offset minutes =>
    "offset must be a timedelta strictly between -timedelta(hours=24) and timedelta(hours=24), " ++
      "not " ++ showLength minutes ++ "."

/-- A flaw of a YAML text. -/
inductive Flaw where
  /-- The text breaks the rules of the format. -/
  | malformed
  /-- An escape gives the code of no character. -/
  | noCharacter
  /-- A text is no whole number of the base. -/
  | noInteger (base : Nat) (text : String)
  /-- A text is no number with a fraction. -/
  | noFraction (text : String)
  /-- A whole number has too many digits. -/
  | tooManyDigits (count : Nat)
  /-- A date does not exist. -/
  | noDate (fault : DateFault)
  /-- Something that breaks the run off. -/
  | breakdown (cause : Breakdown)
  deriving DecidableEq, Repr

/-- How many characters of a shown text a message about a whole number quotes. -/
def maxQuoted : Nat := 200

/-- The words for a flaw; a malformed text has none. -/
def Flaw.message? : Flaw → Option String
  | malformed => none
  | noCharacter => some "chr() arg not in range(0x110000)"
  | noInteger base text =>
    some ("invalid literal for int() with base " ++ toString base ++ ": " ++
      String.ofList ((showText text).toList.take maxQuoted))
  | noFraction text => some ("could not convert string to float: " ++ showText text)
  | tooManyDigits count => some (Json.tooManyDigitsMessage count)
  | noDate fault => some fault.message
  | breakdown cause => some cause.message

end SchemaCodegen.Yaml
