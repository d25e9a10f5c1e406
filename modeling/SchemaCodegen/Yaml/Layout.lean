import SchemaCodegen.Yaml.Property
import SchemaCodegen.Yaml.Scalar.Block
import SchemaCodegen.Yaml.Scalar.Plain
import SchemaCodegen.Yaml.Scalar.Quoted

/-!
# From layout to tokens

The tokens of a YAML text depend on where they stand. A list or mapping of a block begins with the
first token of its kind that is indented further than what is around it, and ends before the first
token that is indented less. A colon makes a key of a scalar or bracket before it in the same line,
which is known only when the colon is read; until then the place in front of the scalar is kept as
a candidate, and the tokens for the key are put there later.

A text may have a flaw that keeps further tokens from being read. What stands before it counts
nevertheless, because it may break a rule of its own; only the tokens behind a candidate that is
still open are not settled, and are left out.
-/

namespace SchemaCodegen.Yaml

open SchemaCodegen.Text (Holding)

/-- A place where a key may have begun. -/
structure Candidate where
  /-- How many tokens stand before it. -/
  position : Nat
  /-- Whether a key has to begin there, because of its indentation. -/
  required : Bool
  /-- The first character after it. -/
  start : Cell
  deriving DecidableEq, Repr

/-- The tokens so far, and what the tokens to come depend on. -/
structure Layout where
  /-- The tokens, the last one first. -/
  tokens : List Token := []
  /-- How many tokens there are. -/
  count : Nat := 0
  /-- The columns of the open lists and mappings of blocks, the innermost first. -/
  columns : List Nat := []
  /-- The candidate among the tokens since the innermost open bracket. -/
  candidate : Option Candidate := none
  /-- The candidates around each open bracket, the innermost first. -/
  outer : List (Option Candidate) := []
  /-- Whether a key without a sign of its own may begin here. -/
  mayBeginKey : Bool := true
  /-- The first character after the last token. -/
  next : Option Cell := none

/-- The most characters that a key may have up to its colon. -/
def maxKeyLength : Nat := 1024

namespace Layout

/-! ## Simple changes -/

/-- Whether a bracket is open. -/
def inFlow (layout : Layout) : Bool :=
  !layout.outer.isEmpty

/-- The layout with more tokens, of which the last one comes first. -/
def append (layout : Layout) (tokens : List Token) : Layout :=
  { layout with tokens := tokens ++ layout.tokens, count := tokens.length + layout.count }

/-- The count stays the number of the tokens. -/
theorem count_append {layout : Layout} (h : layout.count = layout.tokens.length)
    (tokens : List Token) :
    (layout.append tokens).count = (layout.append tokens).tokens.length := by
  rw [append, List.length_append, h]

/-- The layout with a token more. -/
def push (layout : Layout) (token : Token) : Layout :=
  layout.append [token]

/-- The least column where something inside the innermost list or mapping may stand. -/
def innerColumn (layout : Layout) : Nat :=
  match layout.columns with
  | [] => 0
  | column :: _ => column + 1

/-- The layout where a key may begin or not. -/
def keyAllowed (layout : Layout) (allowed : Bool) : Layout :=
  { layout with mayBeginKey := allowed }

/-- The columns that a token at the given column leaves open, and how many lists and mappings it
closes. -/
def closeDeeper (column : Nat) : List Nat → List Nat × Nat
  | [] => ([], 0)
  | deepest :: columns =>
    if column < deepest then
      let (left, closed) := closeDeeper column columns
      (left, closed + 1)
    else (deepest :: columns, 0)

/-- Ends the lists and mappings of blocks that are indented further than the given column. -/
def unwind (layout : Layout) (column : Nat) : Layout :=
  if layout.inFlow then layout
  else
    let (left, closed) := closeDeeper column layout.columns
    ({ layout with columns := left }).append (List.replicate closed .blockEnd)

/-- Ends all lists and mappings of blocks. -/
def unwindAll (layout : Layout) : Layout :=
  if layout.inFlow then layout
  else
    ({ layout with columns := [] }).append (List.replicate layout.columns.length .blockEnd)

/-- Whether a list or mapping of a block begins at the given column. -/
def opensAt (layout : Layout) (column : Nat) : Bool :=
  layout.columns.head?.all (· < column)

/-- Begins a list or mapping of a block with the given token, if one begins at the given column. -/
def openBlock (layout : Layout) (column : Nat) (start : Token) : Layout :=
  if !layout.inFlow && layout.opensAt column then
    ({ layout with columns := column :: layout.columns }).push start
  else layout

/-! ## Candidates -/

/-- Gives up the candidate; one that had to become a key is a flaw. -/
def dropCandidate (layout : Layout) : Except Flaw Layout :=
  if layout.candidate.any Candidate.required then .error .malformed
  else .ok { layout with candidate := none }

/-- Whether a candidate is out of reach of a place: in an earlier line, or too far before it. -/
def isStale (candidate : Candidate) (cell : Cell) : Bool :=
  candidate.start.line != cell.line || maxKeyLength < cell.index - candidate.start.index

/-- Gives up a candidate that is out of reach of a place. -/
def refresh (cell : Cell) (candidate : Option Candidate) : Except Flaw (Option Candidate) :=
  match candidate with
  | none => .ok none
  | some found =>
    if isStale found cell then
      if found.required then .error .malformed else .ok none
    else .ok (some found)

/-- Gives up the candidates that are out of reach of a place. -/
def dropStale (layout : Layout) (cell : Cell) : Except Flaw Layout := do
  let candidate ← refresh cell layout.candidate
  let outer ← layout.outer.mapM (refresh cell)
  return { layout with candidate := candidate, outer := outer }

/-- Keeps the place in front of a character as a candidate, where a key may begin. -/
def addCandidate (layout : Layout) (cell : Cell) : Except Flaw Layout :=
  if layout.mayBeginKey then do
    let layout ← layout.dropCandidate
    let required := !layout.inFlow && layout.columns.head? == some cell.column
    return { layout with candidate := some ⟨layout.count, required, cell⟩ }
  else .ok layout

/-- The layout as it was before the last tokens. -/
def takeBack (layout : Layout) (recent : Nat) : Layout :=
  { layout with tokens := layout.tokens.drop recent, count := layout.count - recent }

/-- Makes a candidate a key: the token for the key, and one for a mapping that begins with it, are
put in its place. -/
def makeKey (layout : Layout) (candidate : Candidate) : Layout :=
  let recent := layout.count - candidate.position
  let before := (layout.takeBack recent).openBlock candidate.start.column .blockMappingStart
  { (before.push .key).append (layout.tokens.take recent) with candidate := none }

/-! ## Reading tokens -/

variable [Holding]

/-- Begins a list or mapping between brackets. -/
def openFlow (layout : Layout) (cell : Cell) (start : Token) : Except Flaw Layout := do
  let layout ← layout.addCandidate cell
  let inner := { layout with outer := layout.candidate :: layout.outer, candidate := none }
  return (inner.keyAllowed true).push start

/-- Ends a list or mapping between brackets. -/
def closeFlow (layout : Layout) (stop : Token) : Except Flaw Layout := do
  let layout ← layout.dropCandidate
  match layout.outer with
  | [] => .error .malformed
  | candidate :: outer =>
    let around := { layout with candidate := candidate, outer := outer }
    return (around.keyAllowed false).push stop

/-- A comma, after which a key may begin. -/
def addComma (layout : Layout) : Except Flaw Layout := do
  return ((← layout.dropCandidate).keyAllowed true).push .comma

/-- A sign that stands where a key may begin, and opens a list or mapping of a block. -/
def addSign (layout : Layout) (cell : Cell) (start sign : Token) (allowed : Bool) :
    Except Flaw Layout :=
  if !layout.inFlow && !layout.mayBeginKey then .error .malformed
  else do
    let layout ← (layout.openBlock cell.column start).dropCandidate
    return (layout.keyAllowed allowed).push sign

/-- A colon: the value of the candidate, if there is one. -/
def addValue (layout : Layout) (cell : Cell) : Except Flaw Layout :=
  match layout.candidate with
  | some candidate => .ok (((layout.makeKey candidate).keyAllowed false).push .value)
  | none => layout.addSign cell .blockMappingStart .value (!layout.inFlow)

/-- A token that may be a key, or the beginning of one. -/
def addNode (layout : Layout) (cell : Cell) (token : Token) : Except Flaw Layout := do
  return ((← layout.addCandidate cell).keyAllowed false).push token

/-- A token that stands by itself between documents. -/
def addMark (layout : Layout) (token : Token) : Except Flaw Layout := do
  return ((← layout.unwindAll.dropCandidate).keyAllowed false).push token

/-- A sign of one character. -/
def one (layout : Except Flaw Layout) : Except Flaw (Layout × Nat) := do
  return (← layout, 1)

/-- A token of one node that a scan reads. -/
def scanNode (layout : Layout) (cell : Cell) (rest : List Cell) (scan : Scan Token) :
    Except Flaw (Layout × Nat) := do
  let (token, count) ← scan.run (cell :: rest)
  return (← layout.addNode cell token, count)

/-- A quoted scalar. -/
def quotedNode (layout : Layout) (cell : Cell) (rest : List Cell) (double : Bool) :
    Except Flaw (Layout × Nat) := do
  let (text, count) ← readQuoted double rest
  return (← layout.addNode cell (.scalar (String.ofList text) false), count + 1)

/-- A plain scalar. -/
def plainNode (layout : Layout) (cell : Cell) (rest : List Cell) : Except Flaw (Layout × Nat) := do
  let found := readPlain layout.inFlow layout.innerColumn (cell :: rest)
  let layout ← layout.addNode cell (.scalar (String.ofList found.text) true)
  return (layout.keyAllowed found.crossesLine, found.count)

/-- A block scalar. -/
def blockNode (layout : Layout) (rest : List Cell) (folded : Bool) :
    Except Flaw (Layout × Nat) := do
  let layout := (← layout.dropCandidate).keyAllowed true
  let (text, count) ← readBlock folded (max layout.innerColumn 1) rest
  return (layout.push (.scalar (String.ofList text) false), count + 1)

/-- A scalar without a sign of its own. -/
def otherNode (layout : Layout) (cell : Cell) (rest : List Cell) : Except Flaw (Layout × Nat) :=
  if startsPlain layout.inFlow cell.char rest then layout.plainNode cell rest
  else .error .malformed

/-- Whether a sign counts by itself: always inside brackets, and before a gap. -/
def standsAlone (layout : Layout) (rest : List Cell) : Bool :=
  layout.inFlow || atGap rest

/-- Reads the token that begins with the given character, and how many characters it takes. -/
def readToken (layout : Layout) (cell : Cell) (rest : List Cell) : Except Flaw (Layout × Nat) :=
  let c := cell.char
  let atLineStart := cell.column == 0
  if atLineStart && c == '%' then do
    let (token, count) ← Scan.directive.run (cell :: rest)
    return (← layout.addMark token, count)
  else if atLineStart && atTriple '-' (cell :: rest) then do
    return (← layout.addMark .documentStart, 3)
  else if atLineStart && atTriple '.' (cell :: rest) then do
    return (← layout.addMark .documentEnd, 3)
  else if c == '[' then one (layout.openFlow cell .flowListStart)
  else if c == '\x7b' then one (layout.openFlow cell .flowMappingStart)
  else if c == ']' then one (layout.closeFlow .flowListEnd)
  else if c == '\x7d' then one (layout.closeFlow .flowMappingEnd)
  else if c == ',' then one layout.addComma
  else if c == '-' && atGap rest then one (layout.addSign cell .blockListStart .item true)
  else if c == '?' && layout.standsAlone rest then
    one (layout.addSign cell .blockMappingStart .key (!layout.inFlow))
  else if c == ':' && layout.standsAlone rest then one (layout.addValue cell)
  else if c == '*' then layout.scanNode cell rest (Token.alias <$> Scan.nodeName)
  else if c == '&' then layout.scanNode cell rest (Token.anchor <$> Scan.nodeName)
  else if c == '!' then layout.scanNode cell rest Scan.tag
  else if c == '|' && !layout.inFlow then layout.blockNode rest false
  else if c == '>' && !layout.inFlow then layout.blockNode rest true
  else if c == '\'' then layout.quotedNode cell rest false
  else if c == '"' then layout.quotedNode cell rest true
  else layout.otherNode cell rest

/-- Reads what begins with the given character: something between tokens, or a token, after what is
out of its reach and indented further was ended. -/
def step (layout : Layout) (cell : Cell) (rest : List Cell) : Except Flaw (Layout × Nat) :=
  let c := cell.char
  if c == ' ' || (c == '\ufeff' && cell.index == 0) then .ok (layout, 1)
  else if c == '#' then .ok (layout, 1 + (rest.takeWhile fun next => !isBreak next.char).length)
  else if isBreak c then .ok (layout.keyAllowed (layout.mayBeginKey || !layout.inFlow), 1)
  else do
    let layout ← layout.dropStale cell
    let (layout, count) ← (layout.unwind cell.column).readToken cell rest
    return ({ layout with next := (rest.drop (count - 1)).head? }, count)

/-- The end of the text. -/
def finish (layout : Layout) : Except Flaw Layout :=
  layout.unwindAll.dropCandidate

/-- Whether a candidate may still become a key. -/
def isOpen (layout : Layout) (candidate : Candidate) : Bool :=
  !layout.next.any (isStale candidate)

/-- How many tokens stand before all candidates that may still become keys. -/
def settledCount (layout : Layout) : Nat :=
  let candidates := (layout.candidate :: layout.outer).filterMap id
  (candidates.filter layout.isOpen).foldl (fun count candidate => min count candidate.position)
    layout.count

/-- The tokens that stay as they are whatever comes next. -/
def settled (layout : Layout) : List Token :=
  layout.tokens.reverse.take layout.settledCount

/-- The tokens up to a flaw that was found when the next one was to be read. -/
def stopped (layout : Layout) (flaw : Flaw) : TokenStream :=
  ⟨layout.settled, some flaw⟩

/-- Reads the characters that are left; the first `skip` of them are already read. -/
def readFrom : Nat → Layout → List Cell → TokenStream
  | _, layout, [] =>
    match layout.finish with
    | .error flaw => layout.stopped flaw
    | .ok layout => ⟨layout.tokens.reverse, none⟩
  | skip + 1, layout, _ :: rest => readFrom skip layout rest
  | 0, layout, cell :: rest =>
    match layout.step cell rest with
    | .error flaw => layout.stopped flaw
    | .ok (next, count) => readFrom (count - 1) next rest

end Layout

/-- The tokens of a text, up to its first flaw. -/
def tokens [Holding] (text : List Char) : TokenStream :=
  if text.all isAllowed then Layout.readFrom 0 {} (cells text) else ⟨[], some .malformed⟩

end SchemaCodegen.Yaml
