import SchemaCodegen.Yaml.Graph
import SchemaCodegen.Yaml.Token

/-!
# From tokens to nodes

The tokens of a text are read as a graph of nodes. A node may be given a name and be referred to
later, and even inside itself. Where a node may be missing, as after a colon at the end of a line,
it is a plain scalar without text. Tokens are asked for one at a time: a flaw that keeps a token
from being read counts only when that token is asked for.
-/

namespace SchemaCodegen.Yaml

/-- What is left of the tokens, what was said about names and tags before them, and the nodes that
were read. -/
structure Unparsed where
  /-- What is left of the tokens. -/
  stream : TokenStream
  /-- The numbers of the nodes by name. -/
  anchors : List (String × Nat) := []
  /-- The short forms of tags. -/
  handles : List (String × String) := []
  /-- The nodes; one that is not complete yet is absent. -/
  nodes : Nodes := #[]
  /-- The numbers of the nodes that are not complete. -/
  unfinished : List Nat := []
  /-- The numbers of the complete nodes, the last one first. -/
  finished : List Nat := []
  /-- Whether a node was referred to inside itself. -/
  circular : Bool := false

/-- A step of reading nodes. -/
abbrev Parse (α : Type) := StateT Unparsed (Except Flaw) α

/-- Where a node stands. -/
inductive Position where
  /-- In a list or document of a block. -/
  | block
  /-- In a mapping of a block, where a list need not be indented. -/
  | blockEntry
  /-- Between brackets. -/
  | flow
  deriving DecidableEq, Repr

namespace Parse

/-- The text is malformed. -/
def malformed {α : Type} : Parse α :=
  throw .malformed

/-- The next token. -/
def next? : Parse (Option Token) := do
  let stream := (← get).stream
  match stream.tokens, stream.flaw with
  | [], some flaw => throw flaw
  | tokens, _ => return tokens.head?

/-- Takes a token. -/
def advance : Parse Unit :=
  modify fun unparsed =>
    { unparsed with stream := { unparsed.stream with tokens := unparsed.stream.tokens.drop 1 } }

/-- Takes the given token if it comes next, and tells whether it did. -/
def accept (token : Token) : Parse Bool := do
  if (← next?) == some token then
    advance
    return true
  else return false

/-- Whether one of the given tokens comes next. -/
def atOneOf (tokens : List Token) : Parse Bool := do
  return (← next?).any tokens.contains

/-- Takes the token that has to come next. -/
def expect (token : Token) : Parse Unit := do
  unless ← accept token do malformed

/-! ## Names and tags -/

/-- The tag that a token gives, with its short form spelled out. -/
def tagText (handle : Option String) (suffix : String) : Parse String := do
  match handle with
  | none => return suffix
  | some name =>
    match (← get).handles.lookup name with
    | some start => return start ++ suffix
    | none => malformed

/-- Takes a name, if one comes next. -/
def anchor? : Parse (Option String) := do
  match ← next? with
  | some (.anchor name) =>
    advance
    return some name
  | _ => return none

/-- Takes a tag, if one comes next; its short form is not spelled out. -/
def tag? : Parse (Option (Option String × String)) := do
  match ← next? with
  | some (.tag handle suffix) =>
    advance
    return some (handle, suffix)
  | _ => return none

/-- Takes the name and the tag in front of a node, in either order. -/
def properties : Parse (Option String × Option String) := do
  let before ← anchor?
  let tag ← tag?
  let name ← if before.isNone && tag.isSome then anchor? else pure before
  match tag with
  | none => return (name, none)
  | some (handle, suffix) => return (name, some (← tagText handle suffix))

/-! ## Complete and other nodes -/

/-- The number of a node whose parts are read next. -/
def openNode : Parse Nat :=
  modifyGet fun unparsed =>
    (unparsed.nodes.size,
      { unparsed with
        nodes := unparsed.nodes.push Node.absent
        unfinished := unparsed.nodes.size :: unparsed.unfinished })

/-- Keeps the node with a number, which is complete. -/
def closeNode (number : Nat) (node : Node) : Parse Unit :=
  modify fun unparsed =>
    { unparsed with
      nodes := unparsed.nodes.put number node
      unfinished := unparsed.unfinished.erase number
      finished := number :: unparsed.finished }

/-- The number of a node that has no parts. -/
def wholeNode (node : Node) : Parse Nat := do
  let number ← openNode
  closeNode number node
  return number

/-- The number of the node that a reference stands for. -/
def referred (name : String) : Parse Nat := do
  match (← get).anchors.lookup name with
  | none => malformed
  | some number =>
    if (← get).unfinished.contains number then
      modify fun unparsed => { unparsed with circular := true }
    return number

/-- A name is given once. -/
def requireNew (name : Option String) : Parse Unit := do
  let anchors := (← get).anchors
  if name.any fun name => (anchors.lookup name).isSome then malformed

/-- Gives the node with a number a name. -/
def nameNode (name : Option String) (number : Nat) : Parse Unit := do
  match name with
  | none => return
  | some name =>
    modify fun unparsed => { unparsed with anchors := (name, number) :: unparsed.anchors }

/-! ## Lists and mappings

Each of these reads on until the end of a list or mapping. What an item is, is given as a step. -/

/-- The number of a node, unless one of the given tokens comes next, before which there is none. -/
def nodeUnless (tokens : List Token) (node : Parse Nat) : Parse Nat := do
  if ← atOneOf tokens then wholeNode Node.absent else node

/-- What follows a key: its value after the token for it, or none. -/
def valueUnless (tokens : List Token) (node : Parse Nat) : Parse Nat := do
  if ← accept .value then nodeUnless tokens node else wholeNode Node.absent

/-- The items of a list of a block; `read` holds those that were read, the last one first. -/
def blockItems (node : Parse Nat) : Nat → List Nat → Parse (List Nat)
  | 0, _ => malformed
  | fuel + 1, read => do
    if ← accept .item then
      let item ← nodeUnless [.item, .blockEnd] node
      blockItems node fuel (item :: read)
    else
      expect .blockEnd
      return read.reverse

/-- The items of a list that is not indented, as the value of a key. -/
def looseItems (node : Parse Nat) : Nat → List Nat → Parse (List Nat)
  | 0, _ => malformed
  | fuel + 1, read => do
    if ← accept .item then
      let item ← nodeUnless [.item, .key, .value, .blockEnd] node
      looseItems node fuel (item :: read)
    else return read.reverse

/-- The entries of a mapping of a block. -/
def blockEntries (node : Parse Nat) : Nat → List (Nat × Nat) → Parse (List (Nat × Nat))
  | 0, _ => malformed
  | fuel + 1, read => do
    if ← accept .key then
      let key ← nodeUnless [.key, .value, .blockEnd] node
      let value ← valueUnless [.key, .value, .blockEnd] node
      blockEntries node fuel ((key, value) :: read)
    else
      expect .blockEnd
      return read.reverse

/-- An item of a list between brackets; a key with a value makes a mapping of one entry. -/
def flowItem (node : Parse Nat) : Parse Nat := do
  if ← accept .key then
    let number ← openNode
    let key ← nodeUnless [.value, .comma, .flowListEnd] node
    let value ← valueUnless [.comma, .flowListEnd] node
    closeNode number (.mapping .mapping [(key, value)])
    return number
  else node

/-- The items of a list between brackets. -/
def flowItems (node : Parse Nat) : Nat → List Nat → Parse (List Nat)
  | 0, _ => malformed
  | fuel + 1, read => do
    if ← accept .flowListEnd then return read.reverse
    unless read.isEmpty do expect .comma
    if ← accept .flowListEnd then return read.reverse
    let item ← flowItem node
    flowItems node fuel (item :: read)

/-- An entry of a mapping between brackets; a node that is no key has no value. -/
def flowEntry (node : Parse Nat) : Parse (Nat × Nat) := do
  if ← accept .key then
    let key ← nodeUnless [.value, .comma, .flowMappingEnd] node
    let value ← valueUnless [.comma, .flowMappingEnd] node
    return (key, value)
  else 
    let key ← node
    return (key, ← wholeNode Node.absent)

/-- The entries of a mapping between brackets. -/
def flowEntries (node : Parse Nat) : Nat → List (Nat × Nat) → Parse (List (Nat × Nat))
  | 0, _ => malformed
  | fuel + 1, read => do
    if ← accept .flowMappingEnd then return read.reverse
    unless read.isEmpty do expect .comma
    if ← accept .flowMappingEnd then return read.reverse
    let entry ← flowEntry node
    flowEntries node fuel (entry :: read)

/-! ## Nodes -/

/-- The number of a list or mapping that has a name, and whose parts are read by the given step. -/
def collection (name : Option String) (parts : Parse Node) : Parse Nat := do
  let number ← openNode
  nameNode name number
  closeNode number (← parts)
  return number

/-- The number of a scalar that has a name. -/
def scalar (name : Option String) (kind : Kind) (text : String) : Parse Nat := do
  let number ← wholeNode (.scalar kind text)
  nameNode name number
  return number

/-- The number of a node after its name and its tag. `inner` reads the nodes inside it, and `width`
bounds how many there are. -/
def content (inner : Position → Parse Nat) (width : Nat) (position : Position)
    (name tag : Option String) : Parse Nat := do
  let listKind := Kind.ofCollection tag .list
  let mappingKind := Kind.ofCollection tag .mapping
  let token ← next?
  requireNew name
  match token with
  | some (.scalar written plain) =>
    advance
    scalar name (Kind.ofScalar tag written plain) written
  | some .flowListStart =>
    advance
    collection name (.list listKind <$> flowItems (inner .flow) width [])
  | some .flowMappingStart =>
    advance
    collection name (.mapping mappingKind <$> flowEntries (inner .flow) width [])
  | token =>
    if token == some .item && position == .blockEntry then
      collection name (.list listKind <$> looseItems (inner .block) width [])
    else if token == some .blockListStart && position != .flow then
      advance
      collection name (.list listKind <$> blockItems (inner .block) width [])
    else if token == some .blockMappingStart && position != .flow then
      advance
      collection name (.mapping mappingKind <$> blockEntries (inner .blockEntry) width [])
    else if name.isSome || tag.isSome then scalar name (Kind.ofScalar tag "" true) ""
    else malformed

/-- The number of a node. `width` bounds how many nodes lie beside each other, and the other number
how deep they lie inside each other. -/
def node (width : Nat) : Nat → Position → Parse Nat
  | 0, _ => throw (.breakdown (.tooDeep .yamlNode))
  | depth + 1, position => do
    match ← next? with
    | some (.alias name) =>
      advance
      referred name
    | _ =>
      let (name, tag) ← properties
      content (node width depth) width position name tag

/-! ## Documents -/

/-- The short forms of tags that need not be declared. -/
def usualHandles : List (String × String) :=
  [("!", "!"), ("!!", Kind.tagStart)]

/-- Takes the directives in front of a document, after `handles` were declared. The version may be
given once, and has to be one that is understood; a short form may be declared once. -/
def directives (handles : List (String × String)) : Nat → Bool → Parse Unit
  | 0, _ => malformed
  | fuel + 1, versioned => do
    match ← next? with
    | some (.directive (.version major)) =>
      advance
      if versioned || major != 1 then malformed
      directives handles fuel true
    | some (.directive (.tagHandle handle start)) =>
      advance
      if (handles.lookup handle).isSome then malformed
      directives ((handle, start) :: handles) fuel versioned
    | some (.directive .other) =>
      advance
      directives handles fuel versioned
    | _ => modify fun unparsed => { unparsed with handles := handles ++ usualHandles }

/-- Whether a document ends here, or has not begun. -/
def atDocumentEdge : Parse Bool := do
  match ← next? with
  | none => return true
  | some (.directive _) => return true
  | some token => return token == .documentStart || token == .documentEnd

/-- The number of the node that is the document after its directives, which may be empty after the
line that begins it. -/
def document (width depth : Nat) : Parse Nat := do
  let whole := node width (depth + 1) .block
  if (← next?) == some .documentEnd || !(← atDocumentEdge) then
    modify fun unparsed => { unparsed with handles := usualHandles }
    whole
  else
    directives [] width false
    expect .documentStart
    if ← atDocumentEdge then wholeNode Node.absent else whole

/-- Takes the lines that end a document. -/
def documentEnds : Nat → Parse Unit
  | 0 => return
  | fuel + 1 => do if ← accept .documentEnd then documentEnds fuel

/-- The number of the node that is the one document of a text, or none if there is nothing in the
text. -/
def stream (width depth : Nat) : Parse (Option Nat) := do
  if (← next?).isNone then return none
  let found ← document width depth
  documentEnds width
  if (← next?).isNone then return some found
  directives [] width false
  malformed

end Parse

/-- The graph that the tokens of a text describe, or none if there are no tokens; at most the given
number of lists and mappings lie inside each other. -/
def Graph.ofTokens? (depth : Nat) (stream : TokenStream) : Except Flaw (Option Graph) := do
  match ← (Parse.stream (stream.tokens.length + 1) depth).run { stream := stream } with
  | (none, _) => return none
  | (some root, parsed) =>
    return some ⟨parsed.nodes, root, parsed.finished.reverse, parsed.circular⟩

end SchemaCodegen.Yaml
