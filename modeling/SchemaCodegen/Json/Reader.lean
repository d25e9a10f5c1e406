import SchemaCodegen.Json.Token

/-!
# Reading a JSON document

The tokens of a JSON text are read one after another by a machine that keeps the lists and mappings
that are still open. The first token that does not fit is the flaw of the text. The words `NaN`,
`Infinity` and `-Infinity` are values; of two equal property names the last one counts.
-/

namespace SchemaCodegen.Json

open SchemaCodegen.Text (Holding)

variable [Holding]

/-- A list or mapping that is still open. -/
inductive Open where
  /-- A list with its items so far, in reverse. -/
  | list (items : List Document)
  /-- A mapping with its entries so far and the name whose value comes next. -/
  | mapping (entries : List (Document × Document)) (name : String)

/-- What the reader waits for, and the lists and mappings that are open, the innermost first. -/
inductive State where
  /-- A value comes next, or the end of the list where `orEnd` holds. -/
  | value (orEnd : Bool) (stack : List Open)
  /-- A comma or an end comes next. -/
  | separator (stack : List Open)
  /-- A property name comes next, or the end of the mapping where `orEnd` holds. -/
  | property (orEnd : Bool) (entries : List (Document × Document)) (stack : List Open)
  /-- A colon comes next. -/
  | colon (entries : List (Document × Document)) (name : String) (stack : List Open)
  /-- The document is complete. -/
  | complete (document : Document)

/-- The state after a value was read. -/
def State.afterValue (value : Document) : List Open → State
  | [] => .complete value
  | .list items :: stack => .separator (.list (value :: items) :: stack)
  | .mapping entries name :: stack =>
    .separator (.mapping (Document.setEntry (.text name) value entries) name :: stack)

/-- The state after a comma inside the innermost list or mapping. -/
def State.afterComma : List Open → State
  | [] => .complete .null
  | .list items :: stack => .value false (.list items :: stack)
  | .mapping entries _ :: stack => .property false entries stack

/-- The state after a list or mapping was opened, unless as many as there may be are open
already. -/
def State.opened (depth : Nat) (inside : State) (nesting : Nesting) (stack : List Open) :
    Except Flaw State :=
  if stack.length < depth then .ok inside else .error (.breakdown (.tooDeep nesting))

/-- Reads a token where a value may begin. -/
def readValue (depth : Nat) (token : Token) (orEnd : Bool) (stack : List Open) :
    Except Flaw State :=
  match token.kind with
  | .value document => .ok (.afterValue document stack)
  | .string text => .ok (.afterValue (.text text) stack)
  | .beginList => (State.value true (.list [] :: stack)).opened depth .jsonList stack
  | .beginMapping => (State.property true [] stack).opened depth .jsonMapping stack
  | .badString flaw => .error flaw
  | .badNumber flaw => .error flaw
  | .endList =>
    match orEnd, stack with
    | true, .list items :: outer => .ok (.afterValue (.list items.reverse) outer)
    | _, _ => .error (.badAt .noValue token.position)
  | _ => .error (.badAt .noValue token.position)

/-- Reads a token where a comma or an end is due. -/
def readSeparator (token : Token) (stack : List Open) : Except Flaw State :=
  match token.kind, stack with
  | .comma, _ => .ok (.afterComma stack)
  | .endList, .list items :: outer => .ok (.afterValue (.list items.reverse) outer)
  | .endMapping, .mapping entries _ :: outer => .ok (.afterValue (.mapping entries) outer)
  | _, _ => .error (.badAt .noComma token.position)

/-- Reads a token where a property name is due. -/
def readName (token : Token) (orEnd : Bool) (entries : List (Document × Document))
    (stack : List Open) : Except Flaw State :=
  match token.kind, orEnd with
  | .string text, _ => .ok (.colon entries text stack)
  | .badString flaw, _ => .error flaw
  | .endMapping, true => .ok (.afterValue (.mapping entries) stack)
  | _, _ => .error (.badAt .noName token.position)

/-- Reads one token. -/
def State.read (depth : Nat) (token : Token) : State → Except Flaw State
  | .value orEnd stack => readValue depth token orEnd stack
  | .separator stack => readSeparator token stack
  | .property orEnd entries stack => readName token orEnd entries stack
  | .colon entries name stack =>
    match token.kind with
    | .colon => .ok (.value false (.mapping entries name :: stack))
    | _ => .error (.badAt .noColon token.position)
  | .complete _ => .error (.badAt .extraData token.position)

/-- The document that was read when the text ends at the given position. -/
def State.finish (position : Nat) : State → Except Flaw Document
  | .value _ _ => .error (.badAt .noValue position)
  | .separator _ => .error (.badAt .noComma position)
  | .property _ _ _ => .error (.badAt .noName position)
  | .colon _ _ _ => .error (.badAt .noColon position)
  | .complete document => .ok document

/-- Reads a JSON document with at most the given number of lists and mappings inside each other. -/
def read (depth : Nat) (text : List Char) : Except Flaw Document := do
  if text.head? == some '\ufeff' then throw (.badAt .byteOrderMark 0)
  let state ← (tokens text).foldlM (fun state token => State.read depth token state)
    (.value false [])
  state.finish text.length

end SchemaCodegen.Json
