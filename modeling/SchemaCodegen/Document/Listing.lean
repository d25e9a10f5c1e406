import SchemaCodegen.Document
import SchemaCodegen.Number.Shortest
import SchemaCodegen.Text.Listing

/-!
# Documents in messages

How a document is shown in a message: texts in quotes, lists between square brackets, sets and
mappings between curly ones. A text by itself is shown without quotes.
-/

namespace SchemaCodegen.Document

open SchemaCodegen.Text

variable [Holding]

/-- The word for a truth value. -/
def truthWord (value : Bool) : String :=
  if value then "True" else "False"

/-- Shown items between curly brackets. -/
def braced (items : List String) : String :=
  "\x7b" ++ String.intercalate ", " items ++ "\x7d"

mutual

/-- A document as part of a message. -/
def listing : Document → String
  | .null => "None"
  | .truth value => truthWord value
  | .int value => toString value
  | .float value => value.shortest
  | .text value => showText value
  | .bytes value => showBytes value
  | .moment value => value.listing
  | .list items => bracketed (listings items)
  | .set items => if items.isEmpty then "set()" else braced (listings items)
  | .mapping entries => braced (entryListings entries)

/-- Several documents, each as part of a message. -/
def listings : List Document → List String
  | [] => []
  | document :: documents => listing document :: listings documents

/-- The entries of a mapping, each as part of a message. -/
def entryListings : List (Document × Document) → List String
  | [] => []
  | (key, value) :: entries => (listing key ++ ": " ++ listing value) :: entryListings entries

end

/-- A document as a message by itself. -/
def display : Document → String
  | .text value => value
  | document => listing document

end SchemaCodegen.Document
