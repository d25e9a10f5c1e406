import SchemaCodegen.Yaml.Cell

/-!
# Folding of lines

Plain and quoted texts may run over several lines. Spaces around the end of a line do not count; a
single end of a line stands for a space, and of several the first one is dropped. While such a text
is read, what stands between two of its words is collected in a `Gap`.
-/

namespace SchemaCodegen.Yaml

/-- What was read since the last character that counts. -/
inductive Gap where
  /-- Nothing. -/
  | nothing
  /-- Spaces, the last one first. -/
  | spaces (held : List Char)
  /-- Ends of lines: the first one, and the further ones with the last one first. -/
  | breaks (first : Char) (more : List Char)
  /-- Ends of lines after one that was joined to its next line, the last one first. -/
  | joined (more : List Char)
  deriving DecidableEq, Repr

namespace Gap

/-- The gap with a space more. -/
def addSpace (c : Char) : Gap → Gap
  | nothing => spaces [c]
  | spaces held => spaces (c :: held)
  | breaks first more => breaks first more
  | joined more => joined more

/-- The gap with an end of a line more. -/
def addBreak (c : Char) : Gap → Gap
  | nothing => breaks c []
  | spaces _ => breaks c []
  | breaks first more => breaks first (c :: more)
  | joined more => joined (c :: more)

/-- Whether the gap is empty. -/
def isNothing : Gap → Bool
  | nothing => true
  | _ => false

/-- Whether the gap reaches over the end of a line. -/
def crossesLine : Gap → Bool
  | breaks _ _ => true
  | joined _ => true
  | _ => false

/-- What a gap stands for. -/
def folded : Gap → List Char
  | nothing => []
  | spaces held => held.reverse
  | breaks first more =>
    if first != '\n' then first :: more.reverse
    else if more.isEmpty then [' ']
    else more.reverse
  | joined more => more.reverse

end Gap

end SchemaCodegen.Yaml
