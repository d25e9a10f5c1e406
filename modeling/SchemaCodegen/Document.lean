import SchemaCodegen.Moment
import SchemaCodegen.Number.Binary64
import SchemaCodegen.Text.Utf8

/-!
# Documents

A document is what a schema dump holds before anything is known about its meaning: a tree of lists,
sets and mappings over simple values. A mapping keeps its entries, and a set its items, in the order
in which they first appeared.
-/

namespace SchemaCodegen

open SchemaCodegen.Number SchemaCodegen.Text

/-- A document. -/
inductive Document where
  /-- No value. -/
  | null
  /-- A truth value. -/
  | truth (value : Bool)
  /-- A whole number of any size. -/
  | int (value : Int)
  /-- A number with a fraction or an exponent. -/
  | float (value : Binary64)
  /-- A text. -/
  | text (value : String)
  /-- Bytes. -/
  | bytes (value : List UInt8)
  /-- A date, with or without a time. -/
  | moment (value : Moment)
  /-- A list. -/
  | list (items : List Document)
  /-- A set. -/
  | set (items : List Document)
  /-- A mapping. -/
  | mapping (entries : List (Document × Document))

namespace Document

/-- The name of the kind of a document in messages. -/
def kindName : Document → String
  | null => "NoneType"
  | truth _ => "bool"
  | int _ => "int"
  | float _ => "float"
  | text _ => "str"
  | bytes _ => "bytes"
  | moment value => value.kindName
  | list _ => "list"
  | set _ => "set"
  | mapping _ => "dict"

/-- The number that a simple value counts as when keys are compared: truth values count as zero and
one. -/
def wholeNumber? : Document → Option Int
  | truth value => some (if value then 1 else 0)
  | int value => some value
  | float value => value.toInt?
  | _ => none

/-- Whether two documents are the same key of a mapping. Numbers are compared by value, and what is
not a number is one key; lists, sets and mappings are no keys. -/
def sameKey (a b : Document) : Bool :=
  match a.wholeNumber?, b.wholeNumber? with
  | some m, some n => m == n
  | some _, none => false
  | none, some _ => false
  | none, none =>
    match a, b with
    | null, null => true
    | float x, float y => x == y
    | text s, text t => s == t
    | bytes x, bytes y => x == y
    | moment x, moment y => x.isSame y
    | _, _ => false

/-- The entries with a key set to a value: a key that is there keeps its place and takes the new
value, a new one comes last. -/
def setEntry {α : Type} (key : Document) (value : α) :
    List (Document × α) → List (Document × α)
  | [] => [(key, value)]
  | entry :: rest =>
    if entry.1.sameKey key then (entry.1, value) :: rest else entry :: setEntry key value rest

/-- The value of the first entry with the given text as its key. -/
def entry? (entries : List (Document × Document)) (name : String) : Option Document :=
  match entries with
  | [] => none
  | (.text key, value) :: rest => if key == name then some value else entry? rest name
  | _ :: rest => entry? rest name

/-- The value under a text key of a mapping. -/
def get? (document : Document) (name : String) : Option Document :=
  match document with
  | mapping entries => entry? entries name
  | _ => none

/-- A mapping with the given texts as keys. -/
def record (fields : List (String × Document)) : Document :=
  mapping (fields.map fun field => (text field.1, field.2))

/-- A list of texts. -/
def texts (values : List String) : Document :=
  list (values.map text)

/-- A document that may be absent. -/
def ofOption {α : Type} (make : α → Document) : Option α → Document
  | none => null
  | some value => make value

/-! ## Characters -/

mutual

/-- The characters of the texts of a document; bytes may be read as a text, too. -/
def characters : Document → List Char
  | text value => value.toList
  | bytes value => (Utf8.decode value).toOption.getD []
  | list items => charactersOfAll items
  | set items => charactersOfAll items
  | mapping entries => charactersOfEntries entries
  | _ => []

/-- The characters of several documents. -/
def charactersOfAll : List Document → List Char
  | [] => []
  | document :: documents => characters document ++ charactersOfAll documents

/-- The characters of the entries of a mapping. -/
def charactersOfEntries : List (Document × Document) → List Char
  | [] => []
  | (key, value) :: entries =>
    characters key ++ characters value ++ charactersOfEntries entries

end

end Document

end SchemaCodegen
