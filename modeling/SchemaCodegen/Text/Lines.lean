/-!
# Lines

A text is counted by its line feeds, with a last unfinished line counted too. Thousands in counts
are set off by commas. In a file a line may also end in a carriage return, alone or before a line
feed; such ends are read as line feeds.
-/

namespace SchemaCodegen.Text

/-- The number of lines: line feeds, and one more when the text does not end in one. The empty text
has none. -/
def countLines (text : String) : Nat :=
  if text.isEmpty then 0
  else
    let cs := text.toList
    cs.count '\n' + if cs.getLast? == some '\n' then 0 else 1

/-- The text without a line feed at its end. -/
def dropLineFeed (cs : List Char) : List Char :=
  if cs.getLast? == some '\n' then cs.dropLast else cs

/-- The text with every carriage return, and a line feed after one, made a single line feed;
`afterReturn` says that the text goes on after a carriage return. -/
def unifyBreaksFrom (afterReturn : Bool) : List Char → List Char
  | [] => []
  | c :: rest =>
    if c == '\r' then '\n' :: unifyBreaksFrom true rest
    else if c == '\n' && afterReturn then unifyBreaksFrom false rest
    else c :: unifyBreaksFrom false rest

/-- No carriage return is left. -/
theorem not_mem_unifyBreaksFrom (afterReturn : Bool) (cs : List Char) :
    '\r' ∉ unifyBreaksFrom afterReturn cs := by
  induction cs generalizing afterReturn with
  | nil => simp [unifyBreaksFrom]
  | cons c rest ih =>
    rw [unifyBreaksFrom]
    split
    · simp [ih]
    · next h =>
      split
      · exact ih false
      · have hne : '\r' ≠ c := fun e => h (by simp [← e])
        simp [hne, ih]

/-- The text with every end of a line made a line feed. -/
def unifyBreaks (cs : List Char) : List Char :=
  unifyBreaksFrom false cs

/-- Lines set under each other, without a line feed after the last. -/
def joinLines (lines : List String) : String :=
  String.intercalate "\n" lines

/-- Items set beside each other, separated by a comma and a space. -/
def commaSeparated (items : List String) : String :=
  String.intercalate ", " items

/-- Digits in groups of three from the right, the groups separated by commas; the digits come and
go in reverse order. -/
def groupThrees : List Char → List Char
  | a :: b :: c :: d :: rest => a :: b :: c :: ',' :: groupThrees (d :: rest)
  | short => short

/-- A count in decimal, with commas between the thousands. -/
def thousands (n : Nat) : String :=
  String.ofList (groupThrees (toString n).toList.reverse).reverse

/-- An integer in decimal, with commas between the thousands. -/
def signedThousands (n : Int) : String :=
  if n < 0 then "-" ++ thousands n.natAbs else thousands n.natAbs

end SchemaCodegen.Text
