import SchemaCodegen.CommandLine.Word
import SchemaCodegen.Options
import SchemaCodegen.Schema.Selection

/-!
# Arguments

What the words of a command line ask for. The words are taken from left to right. The first operand
names the schema file; a switch that takes a value takes the text attached to it or else the next
operand. Switches of one letter may be written in one word. A divider that is attached to a switch
is no value: it leaves the switch without one. The help text and the version are asked for as soon
as their switch is reached; that a word has no meaning is told only at the end.
-/

namespace SchemaCodegen.CommandLine

/-- What a command line asks for. -/
structure Arguments where
  /-- The path of the schema file. -/
  schema : String := ""
  /-- The style of the output, unless its switch is left without a value. -/
  generator : Option String := some "declarative"
  /-- The options of the generator. -/
  options : String := ""
  /-- The wanted schemas, separated by commas. -/
  schemas : String := ""
  /-- The wanted tables, separated by commas. -/
  tables : String := ""
  /-- Whether views are left out. -/
  noViews : Bool := false
  /-- The path of the output, or nothing for the standard output. -/
  outfile : String := ""
  /-- How much is told. -/
  verbosity : Nat := 0
  /-- Whether nothing is told. -/
  quiet : Bool := false
  deriving DecidableEq, Repr

/-- The selection of tables that is asked for. -/
def Arguments.selection (arguments : Arguments) : Selection :=
  { schemas := Options.commaWords arguments.schemas
    tables := Options.commaWords arguments.tables
    noViews := arguments.noViews }

/-- Why a command line asks for no generation. -/
inductive Stop where
  /-- It asks for the help text. -/
  | help
  /-- It asks for the version. -/
  | version
  /-- It is misused. -/
  | misuse (misuse : Misuse)
  deriving DecidableEq, Repr

/-! ## What a word does -/

/-- A thing that a word does. -/
inductive Deed where
  /-- Sets a switch without a value. -/
  | set (switch : Switch)
  /-- Sets a switch to the value that a text gives. -/
  | assign (switch : Switch) (text : String)
  deriving DecidableEq, Repr

/-- What a word does, and the switch at its end that still takes the next operand. -/
structure Deeds where
  /-- What is done. -/
  done : List Deed := []
  /-- The switch that waits for its value. -/
  waiting : Option Switch := none
  deriving DecidableEq, Repr

/-- The deeds with another one in front. -/
def Deeds.after (deed : Deed) (deeds : Deeds) : Deeds :=
  { deeds with done := deed :: deeds.done }

/-- What the switches of one letter in a word do: a switch without a value, and the characters after
it. -/
def clusterDeeds (switch : Switch) : List Char → Except Misuse Deeds
  | [] => .ok { done := [.set switch] }
  | c :: rest =>
    match Switch.ofLetter? c with
    | none => .error (.valueIgnored switch (String.ofList (c :: rest)))
    | some next =>
      if next.takesValue then
        if rest.isEmpty then .ok { done := [.set switch], waiting := some next }
        else .ok { done := [.set switch, .assign next (String.ofList rest)] }
      else
        match clusterDeeds next rest with
        | .error misuse => .error misuse
        | .ok deeds => .ok (deeds.after (.set switch))

/-- What a switch does with the text attached to it. -/
def switchDeeds (switch : Switch) (short : Bool) (attached : Option String) : Except Misuse Deeds :=
  match attached with
  | none =>
    if switch.takesValue then .ok { waiting := some switch } else .ok { done := [.set switch] }
  | some text =>
    if switch.takesValue then .ok { done := [.assign switch text] }
    else if short && !text.isEmpty then clusterDeeds switch text.toList
    else .error (.valueIgnored switch text)

/-! ## Taking the words -/

/-- What the words so far ask for. -/
structure Progress where
  /-- What is asked for. -/
  arguments : Arguments := {}
  /-- Whether the schema file is named. -/
  named : Bool := false
  /-- The words without a meaning. -/
  left : List String := []

/-- Sets a switch without a value. -/
def setSwitch (arguments : Arguments) : Switch → Except Stop Arguments
  | .help => .error .help
  | .version => .error .version
  | .noViews => .ok { arguments with noViews := true }
  | .verbose => .ok { arguments with verbosity := arguments.verbosity + 1 }
  | .quiet => .ok { arguments with quiet := true }
  | _ => .ok arguments

/-- The value that a text gives a switch: none if the text is a divider. -/
def valueOf? (text : String) : Option String :=
  if text == "--" then none else some text

/-- Sets a switch to the value that a text gives. -/
def assignSwitch (arguments : Arguments) (text : String) (switch : Switch) : Arguments :=
  let value := (valueOf? text).getD ""
  match switch with
  | .generator => { arguments with generator := valueOf? text }
  | .options => { arguments with options := value }
  | .schemas => { arguments with schemas := value }
  | .tables => { arguments with tables := value }
  | .outfile => { arguments with outfile := value }
  | _ => arguments

/-- The progress with a word more that has no meaning. -/
def Progress.leave (progress : Progress) (word : String) : Progress :=
  { progress with left := progress.left ++ [word] }

/-- The progress after a deed. -/
def Progress.perform (progress : Progress) : Deed → Except Stop Progress
  | .set switch =>
    match setSwitch progress.arguments switch with
    | .error stop => .error stop
    | .ok arguments => .ok { progress with arguments := arguments }
  | .assign switch text =>
    .ok { progress with arguments := assignSwitch progress.arguments text switch }

/-- The progress after an operand: the first one names the schema file. -/
def Progress.operand (progress : Progress) (word : String) : Progress :=
  if progress.named then progress.leave word
  else { progress with named := true, arguments := { progress.arguments with schema := word } }

/-- What is asked for at the end of the words. -/
def Progress.finish (progress : Progress) : Except Stop Arguments :=
  if !progress.named then .error (.misuse .schemaMissing)
  else if !progress.left.isEmpty then .error (.misuse (.unrecognized progress.left))
  else .ok progress.arguments

/-- A divider has a meaning in front of the operand that names the schema file, and right after it;
`beside` tells that the word before was that operand. -/
def dividerCounts (progress : Progress) (beside : Bool) (words : List Word) : Bool :=
  beside || (!progress.named && !words.isEmpty)

/-- The progress after the deeds of a word, with a value for the switch that waits for one. -/
def Progress.performAll (progress : Progress) (deeds : Deeds) (value : Option String) :
    Except Stop Progress :=
  let last := match deeds.waiting, value with
    | some switch, some text => [Deed.assign switch text]
    | _, _ => []
  (deeds.done ++ last).foldlM Progress.perform progress

/-- Takes the words one after another. -/
def takeWords (progress : Progress) (beside : Bool) : List Word → Except Stop Arguments
  | [] => progress.finish
  | .operand text :: words => takeWords (progress.operand text) (!progress.named) words
  | .unknown text :: words => takeWords (progress.leave text) false words
  | .divider :: words =>
    if dividerCounts progress beside words then takeWords progress false words
    else takeWords (progress.leave "--") false words
  | .switch switch short attached :: words =>
    match switchDeeds switch short attached with
    | .error misuse => .error (.misuse misuse)
    | .ok deeds =>
      match deeds.waiting, words with
      | none, rest =>
        match progress.performAll deeds none with
        | .error stop => .error stop
        | .ok next => takeWords next false rest
      | some _, .operand value :: rest =>
        match progress.performAll deeds (some value) with
        | .error stop => .error stop
        | .ok next => takeWords next false rest
      | some last, _ => .error (.misuse (.valueMissing last))

/-- What the words of a command line ask for. -/
def readArguments (words : List String) : Except Stop Arguments :=
  match readWords words with
  | .error misuse => .error (.misuse misuse)
  | .ok read => takeWords {} false read

end SchemaCodegen.CommandLine
