/-!
# Words of a name

A name in any style (`user_profiles`, `UserProfiles`, `HTTPServer2`) is cut into words. Only ASCII
letters and digits belong to words; every other character separates them. Inside a run of letters
and digits a new word begins

* at a digit after a letter and at a letter after a digit,
* at a capital after a small letter,
* at the last capital of several when a small letter follows it (`HTTPServer` is `HTTP`, `Server`).
-/

namespace SchemaCodegen.Naming

/-- Whether the text begins with a small letter. -/
def startsLower : List Char → Bool
  | [] => false
  | c :: _ => c.isLower

/-- Whether `c` belongs to the same word as the character that begins `rest`. -/
def joins (c : Char) : List Char → Bool
  | [] => false
  | d :: rest =>
    (d.isLower && c.isAlpha) || (d.isDigit && c.isDigit) ||
      (d.isUpper && c.isUpper && !startsLower rest)

/-- Puts a character in front of the first word. -/
def attach (c : Char) : List (List Char) → List (List Char)
  | [] => [[c]]
  | word :: words => (c :: word) :: words

/-- All together, the words with one character more are that character and the words. -/
theorem flatten_attach (c : Char) (words : List (List Char)) :
    (attach c words).flatten = c :: words.flatten := by
  cases words <;> simp [attach]

/-- The words of a name, spelled as in the name. -/
def splitWords : List Char → List (List Char)
  | [] => []
  | c :: rest =>
    if c.isAlphanum then
      if joins c rest then attach c (splitWords rest) else [c] :: splitWords rest
    else splitWords rest

/-- All together, the words of a name are its letters and digits. -/
theorem flatten_splitWords (name : List Char) :
    (splitWords name).flatten = name.filter Char.isAlphanum := by
  induction name with
  | nil => rfl
  | cons c rest ih =>
    rw [splitWords]
    split
    · next h =>
      rw [List.filter_cons_of_pos h, ← ih]
      split
      · exact flatten_attach c _
      · simp
    · next h => rw [List.filter_cons_of_neg h, ih]

/-- The words of a name in small letters. -/
def wordsOf (name : List Char) : List (List Char) :=
  (splitWords name).map fun word => word.map Char.toLower

/-- The words of a name in small letters. -/
def words (name : String) : List String :=
  (wordsOf name.toList).map String.ofList

end SchemaCodegen.Naming
