import SchemaCodegen.Text.Digits
import SchemaCodegen.Text.Lines
import SchemaCodegen.Text.Literal

/-!
# Expressions of the generated code

Generated code is built as trees and printed last. A symbol carries the place it comes from, so the
imports of a piece of code are read off its tree: `Expr.symbols` lists the symbols an expression
mentions, and `Symbol.home` says which import each of them needs.
-/

namespace SchemaCodegen.Code

open SchemaCodegen.Text

/-- Where a symbol comes from. -/
inductive Home where
  /-- Known without an import. -/
  | builtin
  /-- Imported by name from a module. -/
  | importedFrom (module : String)
  /-- A member of a module that is imported as a whole, written with the module's name. -/
  | memberOf (module : String)
  deriving DecidableEq, Repr

/-- A name of the generated code together with its home. -/
structure Symbol where
  /-- Where it comes from. -/
  home : Home
  /-- The name itself. -/
  name : String
  deriving DecidableEq, Repr

/-- The symbol as it is written. -/
def Symbol.render (symbol : Symbol) : String :=
  match symbol.home with
  | .memberOf module => module ++ "." ++ symbol.name
  | _ => symbol.name

/-- What has to be imported for a symbol that is imported by name. -/
def Symbol.imported? (symbol : Symbol) : Option (String × String) :=
  match symbol.home with
  | .importedFrom module => some (module, symbol.name)
  | _ => none

/-- An expression of the generated code. -/
inductive Expr where
  /-- A symbol by itself. -/
  | symbol (symbol : Symbol)
  /-- A quoted literal. -/
  | literal (text : String)
  /-- A whole number. -/
  | number (value : Int)
  /-- A truth value. -/
  | truth (value : Bool)
  /-- A call, or a type with arguments. -/
  | call (callee : Symbol) (args : List Expr)
  /-- An argument given by name. -/
  | keyword (name : String) (value : Expr)
  /-- A generic type applied to one type. -/
  | index (head : Symbol) (item : Expr)
  /-- A list. -/
  | list (items : List Expr)
  /-- A tuple. -/
  | tuple (items : List Expr)
  /-- A dictionary from texts to texts. -/
  | dict (entries : List (String × String))

namespace Expr

/-- The name of a truth value. -/
def truthName (value : Bool) : String :=
  if value then "True" else "False"

/-- The items of a tuple: a tuple of one item ends in a comma. -/
def tupleBody : List String → String
  | [item] => item ++ ","
  | items => commaSeparated items

/-- One entry of a dictionary. -/
def renderEntry (entry : String × String) : String :=
  quote entry.1 ++ ": " ++ quote entry.2

mutual

/-- The expression as it is written. -/
def render : Expr → String
  | .symbol s => s.render
  | .literal text => quote text
  | .number value => toString value
  | .truth value => truthName value
  | .call callee args => callee.render ++ "(" ++ commaSeparated (renderAll args) ++ ")"
  | .keyword name value => name ++ "=" ++ render value
  | .index head item => head.render ++ "[" ++ render item ++ "]"
  | .list items => "[" ++ commaSeparated (renderAll items) ++ "]"
  | .tuple items => "(" ++ tupleBody (renderAll items) ++ ")"
  | .dict entries => "\x7b" ++ commaSeparated (entries.map renderEntry) ++ "\x7d"

/-- Each of several expressions as it is written. -/
def renderAll : List Expr → List String
  | [] => []
  | e :: es => render e :: renderAll es

end

mutual

/-- The symbols that the expression mentions, in the order of their writing. -/
def symbols : Expr → List Symbol
  | .symbol s => [s]
  | .literal _ => []
  | .number _ => []
  | .truth _ => []
  | .call callee args => callee :: symbolsOfAll args
  | .keyword _ value => symbols value
  | .index head item => head :: symbols item
  | .list items => symbolsOfAll items
  | .tuple items => symbolsOfAll items
  | .dict _ => []

/-- The symbols that several expressions mention. -/
def symbolsOfAll : List Expr → List Symbol
  | [] => []
  | e :: es => symbols e ++ symbolsOfAll es

end

mutual

/-- The whole numbers that are written in the expression, in the order of their writing. -/
def numbers : Expr → List Int
  | .symbol _ => []
  | .literal _ => []
  | .number value => [value]
  | .truth _ => []
  | .call _ args => numbersOfAll args
  | .keyword _ value => numbers value
  | .index _ item => numbers item
  | .list items => numbersOfAll items
  | .tuple items => numbersOfAll items
  | .dict _ => []

/-- The whole numbers that are written in several expressions. -/
def numbersOfAll : List Expr → List Int
  | [] => []
  | e :: es => numbers e ++ numbersOfAll es

end

/-- Whether a number of the expression has too many digits to be written. -/
def hasLongNumber (e : Expr) : Bool :=
  e.numbers.any isLongNumber

/-- Each expression is rendered by itself. -/
theorem renderAll_eq_map (es : List Expr) : renderAll es = es.map render := by
  induction es with
  | nil => rfl
  | cons e es ih => simp [renderAll, ih]

/-- The symbols of several expressions are those of each in turn. -/
theorem symbolsOfAll_eq_flatMap (es : List Expr) : symbolsOfAll es = es.flatMap symbols := by
  induction es with
  | nil => rfl
  | cons e es ih => simp [symbolsOfAll, ih]

/-- A list of quoted literals. -/
def literals (texts : List String) : List Expr :=
  texts.map literal

end Expr

end SchemaCodegen.Code
