/-!
# Switches of the command line

The words that begin with a dash and have a meaning. Some of them take a value. A switch has one
long spelling, and some have a short one of a single letter as well.
-/

namespace SchemaCodegen.CommandLine

/-- A switch. -/
inductive Switch where
  /-- Shows the help text. -/
  | help
  /-- Shows the version. -/
  | version
  /-- Chooses the style of the output. -/
  | generator
  /-- Gives options of the generator. -/
  | options
  /-- Chooses schemas. -/
  | schemas
  /-- Chooses tables. -/
  | tables
  /-- Leaves out views. -/
  | noViews
  /-- Writes the output to a file. -/
  | outfile
  /-- Tells more. -/
  | verbose
  /-- Tells nothing. -/
  | quiet
  deriving DecidableEq, Repr

namespace Switch

/-- All switches, in the order in which they are listed. -/
def all : List Switch :=
  [help, version, generator, options, schemas, tables, noViews, outfile, verbose, quiet]

/-- The letter of the short spelling. -/
def letter? : Switch → Option Char
  | help => some 'h'
  | outfile => some 'o'
  | verbose => some 'v'
  | quiet => some 'q'
  | _ => none

/-- The long spelling. -/
def long : Switch → String
  | help => "--help"
  | version => "--version"
  | generator => "--generator"
  | options => "--options"
  | schemas => "--schemas"
  | tables => "--tables"
  | noViews => "--noviews"
  | outfile => "--outfile"
  | verbose => "--verbose"
  | quiet => "--quiet"

/-- Whether the switch takes a value. -/
def takesValue : Switch → Bool
  | generator => true
  | options => true
  | schemas => true
  | tables => true
  | outfile => true
  | _ => false

/-- The switch with a short spelling of the given letter. -/
def ofLetter? (c : Char) : Option Switch :=
  all.find? fun switch => switch.letter? == some c

/-- The switch of a long spelling. -/
def ofLong? (word : String) : Option Switch :=
  all.find? fun switch => switch.long == word

/-- The switches whose long spelling begins with the given text. -/
def withStart (start : String) : List Switch :=
  all.filter fun switch => start.toList.isPrefixOf switch.long.toList

/-- The spellings of a switch, as messages name it. -/
def title (switch : Switch) : String :=
  match switch.letter? with
  | some c => "-" ++ c.toString ++ "/" ++ switch.long
  | none => switch.long

end Switch

end SchemaCodegen.CommandLine
