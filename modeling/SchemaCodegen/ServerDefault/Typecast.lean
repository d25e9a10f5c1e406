import SchemaCodegen.ServerDefault.Balance
import SchemaCodegen.Text.Blank
import SchemaCodegen.Text.WordCharacter

/-!
# Trailing casts

PostgreSQL reports a literal default with a cast at its end (`'draft'::character varying`), which is
left out of generated code. A cast inside a call or a literal belongs to the expression. An
expression that is not balanced has no cast to remove.
-/

namespace SchemaCodegen.ServerDefault

open SchemaCodegen.Text

/-- Looks for the last `::` outside literals and parentheses, from a position on. `second` says
that the next character is the second colon of a pair; `found` is the last pair so far. There is no
answer when the text is not balanced. -/
def castFrom (second : Bool) (b : Balance) (position : Nat) (found : Option Nat) :
    List Char → Option Nat
  | [] => if b.isOuter then found else none
  | c :: rest =>
    if second then castFrom false b (position + 1) found rest
    else if c = ':' ∧ b.isOuter ∧ rest.head? = some ':' then
      castFrom true b (position + 1) (some position) rest
    else
      match b.step c with
      | none => none
      | some next => castFrom false next (position + 1) found rest

/-- The position of the last `::` outside literals and parentheses of a balanced expression. -/
def castPosition? (cs : List Char) : Option Nat :=
  castFrom false {} 0 none cs

/-- The characters that the name of a cast's target is made of: words, blanks, dots, quoted names,
sizes and array marks. -/
def isTargetChar (c : Char) : Bool :=
  isWordChar c || isBlank c || ['.', '"', '[', ']', '(', ')', ','].contains c

/-- Whether a text can be the target of a cast. -/
def isCastTarget (cs : List Char) : Bool :=
  !cs.isEmpty && cs.all isTargetChar

/-- The expression without its last cast, if a cast ends it. -/
def dropCast? (cs : List Char) : Option (List Char) :=
  match castPosition? cs with
  | none => none
  | some position =>
    if isCastTarget (cs.drop (position + 2)) then some (stripEnd (cs.take position)) else none

/-- The expression without the casts at its end, at most the given number of them. -/
def dropCasts : Nat → List Char → List Char
  | 0, cs => cs
  | n + 1, cs =>
    match dropCast? cs with
    | none => cs
    | some shorter => dropCasts n shorter

/-- The expression without blanks around it and without the casts at its end. Every cast takes a
character at least, so there are no more of them than characters. -/
def stripCastsOf (cs : List Char) : List Char :=
  dropCasts cs.length (strip cs)

/-- The expression without blanks around it and without the casts at its end. -/
def stripCasts (expression : String) : String :=
  String.ofList (stripCastsOf expression.toList)

end SchemaCodegen.ServerDefault
