import SchemaCodegen.Proofs.ServerDefault.StrippedCasts

/-!
# Proofs: what may stand behind a cast

What is removed with a cast is decided by its characters and not by the grammar of types. So every
cast to a type whose name is not quoted is removed, and whatever follows the name of the type goes
with it as long as it is written with the same characters.
-/

namespace SchemaCodegen.ServerDefault

open SchemaCodegen.Text

/-! ## Names of types -/

/-- A part of the name of a type. -/
inductive TypePart where
  /-- A word or a number. -/
  | word (letters : List Char)
  /-- A name between double quotes. -/
  | quoted (letters : List Char)
  /-- Any other character. -/
  | mark (sign : Char)
  deriving DecidableEq, Repr

/-- Where a reading of parts stands, with the characters read of a part, the last one first. -/
inductive PartReader where
  /-- In a word, or between parts if it has no characters. -/
  | plain (word : List Char)
  /-- Between double quotes. -/
  | quoted (name : List Char)
  deriving DecidableEq, Repr

/-- The part that is read so far. A quote that is not closed stands for itself. -/
def PartReader.pending : PartReader → List TypePart
  | plain [] => []
  | plain word => [.word word.reverse]
  | quoted _ => [.mark '"']

/-- The parts of a text, from a place on. -/
def partsFrom : PartReader → List Char → List TypePart
  | reader, [] => reader.pending
  | .quoted name, c :: cs =>
    if c = '"' then .quoted name.reverse :: partsFrom (.plain []) cs
    else partsFrom (.quoted (c :: name)) cs
  | .plain word, c :: cs =>
    if isBlank c then (PartReader.plain word).pending ++ partsFrom (.plain []) cs
    else if isWordChar c then partsFrom (.plain (c :: word)) cs
    else if c = '"' then (PartReader.plain word).pending ++ partsFrom (.quoted []) cs
    else (PartReader.plain word).pending ++ .mark c :: partsFrom (.plain []) cs

/-- The words, quoted names and marks of a text. -/
def partsOf (cs : List Char) : List TypePart :=
  partsFrom (.plain []) cs

namespace TypePart

/-- Whether the part is a name: a word that begins with no digit, or a quoted name. -/
def isName : TypePart → Bool
  | word letters => !letters.head?.any isDigitChar
  | quoted letters => !letters.isEmpty
  | mark _ => false

/-- Whether the part is a number. -/
def isNumber : TypePart → Bool
  | word letters => letters.all Char.isDigit
  | _ => false

/-- The words that go on with the name of a type. -/
def laterWords : List String :=
  ["varying", "precision", "with", "without", "time", "zone",
    "year", "month", "day", "hour", "minute", "second", "to"]

/-- Whether the part is one of these words, in any letter case. -/
def isLater : TypePart → Bool
  | word letters => laterWords.contains (String.ofList (letters.map Char.toLower))
  | _ => false

end TypePart

/-- What follows a name with its qualifiers. -/
def afterName : List TypePart → Option (List TypePart)
  | [] => none
  | part :: .mark '.' :: rest => if part.isName then afterName rest else none
  | part :: rest => if part.isName then some rest else none

/-- What follows numbers and a closing parenthesis. -/
def afterNumbers : List TypePart → Option (List TypePart)
  | number :: .mark ',' :: rest => if number.isNumber then afterNumbers rest else none
  | number :: .mark ')' :: rest => if number.isNumber then some rest else none
  | _ => none

/-- What follows numbers in parentheses, which need not be there. -/
def afterSize : List TypePart → Option (List TypePart)
  | .mark '(' :: rest => afterNumbers rest
  | rest => some rest

/-- Whether the parts are marks of arrays. -/
def areArrayMarks : List TypePart → Bool
  | [] => true
  | .mark '[' :: .mark ']' :: rest => areArrayMarks rest
  | _ => false

/-- What follows a name, the words that go on with it, and numbers in parentheses. -/
def afterSizedName (parts : List TypePart) : Option (List TypePart) :=
  (afterName parts).bind fun rest => afterSize (rest.dropWhile TypePart.isLater)

/-- Whether a text is the name of a type: a name with its qualifiers, bare or quoted, the words that
go on with it, numbers in parentheses and marks of arrays. The numbers may stand among the words, as
in `timestamp(3) with time zone`. -/
def isTypeName (cs : List Char) : Bool :=
  (afterSizedName (partsOf cs)).any fun rest => areArrayMarks (rest.dropWhile TypePart.isLater)

example : ["integer", "character varying(20)", "integer[]", "\"MyType\"", "public.mood",
    "timestamp(3) with time zone", "interval day to second", "numeric(10, 2)[]"].all
    (fun text => isTypeName text.toList) = true := by
  decide

example : ["integer IN (0, 1)", "text IS NULL", "boolean AND x", "text COLLATE \"C\""].any
    (fun text => isTypeName text.toList) = false := by
  decide

/-! ## The characters of names of types -/

/-- The marks in the name of a type that is not quoted. -/
def typeMarks : List Char :=
  ['.', '[', ']', '(', ')', ',']

/-- A part is a mark of no name of a type. -/
def TypePart.IsForeign (part : TypePart) : Prop :=
  ∃ sign, part = .mark sign ∧ sign ∉ typeMarks

theorem not_isForeign_mark {sign : Char} (h : sign ∈ typeMarks) :
    ¬(TypePart.mark sign).IsForeign := by
  rintro ⟨other, hother, hforeign⟩
  obtain rfl := TypePart.mark.inj hother
  exact hforeign h

theorem not_isForeign_of_isName {part : TypePart} (h : part.isName = true) : ¬part.IsForeign := by
  rintro ⟨sign, rfl, _⟩
  cases h

theorem not_isForeign_of_isNumber {part : TypePart} (h : part.isNumber = true) :
    ¬part.IsForeign := by
  rintro ⟨sign, rfl, _⟩
  cases h

variable {parts rest : List TypePart} {part : TypePart}

theorem TypePart.IsForeign.mem_tail {first : TypePart} (hforeign : part.IsForeign)
    (hfirst : ¬first.IsForeign) (hmem : part ∈ first :: rest) : part ∈ rest := by
  have hne : part ≠ first := by
    rintro rfl
    exact hfirst hforeign
  exact List.mem_of_ne_of_mem hne hmem

/-- A foreign mark is no part of a name. -/
theorem mem_of_afterName (h : afterName parts = some rest) (hforeign : part.IsForeign)
    (hmem : part ∈ parts) : part ∈ rest := by
  fun_induction afterName parts with
  | case1 => cases h
  | case2 first others hname ih =>
    have hdotted := hforeign.mem_tail (not_isForeign_of_isName hname) hmem
    exact ih h (hforeign.mem_tail (not_isForeign_mark (by decide)) hdotted)
  | case3 => cases h
  | case4 first others _ hname =>
    obtain rfl := Option.some.inj h
    exact hforeign.mem_tail (not_isForeign_of_isName hname) hmem
  | case5 => cases h

/-- Nor of numbers. -/
theorem mem_of_afterNumbers (h : afterNumbers parts = some rest) (hforeign : part.IsForeign)
    (hmem : part ∈ parts) : part ∈ rest := by
  fun_induction afterNumbers parts with
  | case1 number others hnumber ih =>
    have hmarked := hforeign.mem_tail (not_isForeign_of_isNumber hnumber) hmem
    exact ih h (hforeign.mem_tail (not_isForeign_mark (by decide)) hmarked)
  | case2 => cases h
  | case3 number others hnumber =>
    obtain rfl := Option.some.inj h
    have hmarked := hforeign.mem_tail (not_isForeign_of_isNumber hnumber) hmem
    exact hforeign.mem_tail (not_isForeign_mark (by decide)) hmarked
  | case4 => cases h
  | case5 => cases h

theorem mem_of_afterSize (h : afterSize parts = some rest) (hforeign : part.IsForeign)
    (hmem : part ∈ parts) : part ∈ rest := by
  rw [afterSize.eq_def] at h
  split at h
  · exact mem_of_afterNumbers h hforeign
      (hforeign.mem_tail (not_isForeign_mark (by decide)) hmem)
  · obtain rfl := Option.some.inj h
    exact hmem

/-- Nor of the words that go on with a name. -/
theorem mem_dropWhile_isLater (hforeign : part.IsForeign) (hmem : part ∈ parts) :
    part ∈ parts.dropWhile TypePart.isLater := by
  rw [← parts.takeWhile_append_dropWhile (p := TypePart.isLater), List.mem_append] at hmem
  refine hmem.resolve_left fun hlater => ?_
  obtain ⟨sign, rfl, _⟩ := hforeign
  cases List.mem_takeWhile_imp hlater

theorem not_mem_of_areArrayMarks (h : areArrayMarks parts = true) (hforeign : part.IsForeign) :
    part ∉ parts := by
  fun_induction areArrayMarks parts with
  | case1 => exact List.not_mem_nil
  | case2 others ih =>
    intro hmem
    have hclosing := hforeign.mem_tail (not_isForeign_mark (by decide)) hmem
    exact ih h (hforeign.mem_tail (not_isForeign_mark (by decide)) hclosing)
  | case3 => cases h

/-- All marks in the name of a type are its own. -/
theorem not_isForeign_of_isTypeName {cs : List Char} (h : isTypeName cs = true) :
    ∀ part ∈ partsOf cs, ¬part.IsForeign := by
  intro part hmem hforeign
  obtain ⟨rest, hsized, hmarks⟩ := (Option.any_eq_true ..).1 h
  obtain ⟨words, hname, hsize⟩ := Option.bind_eq_some_iff.1 hsized
  have hwords := mem_dropWhile_isLater hforeign (mem_of_afterName hname hforeign hmem)
  have hrest := mem_dropWhile_isLater hforeign (mem_of_afterSize hsize hforeign hwords)
  exact not_mem_of_areArrayMarks hmarks hforeign hrest

/-- Every character of a text without double quotes is a blank, one of a word, or a mark. -/
theorem mark_mem_partsFrom {cs : List Char} (hquote : '"' ∉ cs) (word : List Char) :
    ∀ c ∈ cs, isBlank c = true ∨ isWordChar c = true ∨ .mark c ∈ partsFrom (.plain word) cs := by
  induction cs generalizing word with
  | nil => exact List.forall_mem_nil _
  | cons d cs ih =>
    have hd : d ≠ '"' := fun hd => hquote (hd ▸ List.mem_cons_self ..)
    have hcs : '"' ∉ cs := fun hcs => hquote (List.mem_cons_of_mem _ hcs)
    intro c hc
    rw [partsFrom]
    split_ifs with hblank hword
    · rcases List.mem_cons.1 hc with rfl | hc
      · exact Or.inl hblank
      · exact (ih hcs [] c hc).imp_right (Or.imp_right (List.mem_append_right _))
    · rcases List.mem_cons.1 hc with rfl | hc
      · exact Or.inr (Or.inl hword)
      · exact ih hcs (d :: word) c hc
    · rcases List.mem_cons.1 hc with rfl | hc
      · exact Or.inr (Or.inr (List.mem_append_right _ (List.mem_cons_self ..)))
      · exact (ih hcs [] c hc).imp_right (Or.imp_right fun hmark =>
          List.mem_append_right _ (List.mem_cons_of_mem _ hmark))

theorem partsOf_of_all_isBlank {cs : List Char} (h : cs.all isBlank = true) : partsOf cs = [] := by
  induction cs with
  | nil => rfl
  | cons c cs ih =>
    rw [List.all_cons, Bool.and_eq_true] at h
    rw [partsOf, partsFrom, if_pos h.1]
    exact ih h.2

/-- The name of a type shows something. -/
theorem all_isBlank_of_isTypeName {cs : List Char} (h : isTypeName cs = true) :
    cs.all isBlank = false := by
  by_contra hall
  rw [isTypeName, partsOf_of_all_isBlank (Bool.not_eq_false _ ▸ hall)] at h
  cases h

/-- The characters of the name of a type that is not quoted are those that a cast may name. -/
theorem isTargetChar_of_isTypeName {cs : List Char} (h : isTypeName cs = true)
    (hquote : '"' ∉ cs) : ∀ c ∈ cs, isTargetChar c = true := by
  have hmarks : typeMarks.all isTargetChar = true := by decide
  intro c hc
  rcases mark_mem_partsFrom hquote [] c hc with hblank | hword | hmark
  · simp [isTargetChar, hblank]
  · simp [isTargetChar, hword]
  · have hown := not_isForeign_of_isTypeName h _ hmark
    by_contra hother
    exact hown ⟨c, rfl, fun hsign => hother (List.all_eq_true.1 hmarks c hsign)⟩

/-! ## What goes with a cast -/

/-- A text can be the target of a cast, but for blanks at its end, if it shows something and has the
characters of targets. -/
theorem isCastTarget_stripEnd (cs : List Char) :
    isCastTarget (stripEnd cs) = (!cs.all isBlank && cs.all isTargetChar) := by
  obtain ⟨blanks, hblanks, hsplit⟩ := exists_stripEnd_append cs
  have hempty : (stripEnd cs).isEmpty = cs.all isBlank := by
    rw [Bool.eq_iff_iff, List.isEmpty_iff, stripEnd_eq_rdropWhile, List.rdropWhile_eq_nil_iff,
      List.all_eq_true]
  have hblank : blanks.all isTargetChar = true :=
    List.all_eq_true.2 fun c hc => by simp [isTargetChar, hblanks c hc]
  have hall : (stripEnd cs).all isTargetChar = cs.all isTargetChar := by
    conv_rhs => rw [hsplit, List.all_append, hblank, Bool.and_true]
  rw [isCastTarget, hempty, hall]

/-- How an expression loses what stands behind its last pair of colons. -/
structure RemovesByCharacters (cs : List Char) : Prop where
  /-- An expression that cannot be cut is only trimmed. -/
  uncut : (¬∃ front target, SplitsAtCast cs front target) → stripCastsOf cs = strip cs
  /-- What stands behind the last pair is removed, with the casts before it, exactly if it shows
  something and has the characters of targets. -/
  cut : ∀ front target, SplitsAtCast cs front target → stripCastsOf cs =
    if !target.all isBlank && target.all isTargetChar then stripCastsOf front else strip cs
  /-- What stands behind the name of a type, if this is not quoted, goes with the cast exactly if it
  has the characters of targets. -/
  behind : ∀ front type more, SplitsAtCast cs front (type ++ more) → isTypeName type = true →
    '"' ∉ type → stripCastsOf cs =
      if more.all isTargetChar then stripCastsOf front else strip cs

/-- What is removed behind a pair of colons is decided by its characters. -/
theorem removesByCharacters (cs : List Char) : RemovesByCharacters cs := by
  have hcut : ∀ front target, SplitsAtCast cs front target → stripCastsOf cs =
      if !target.all isBlank && target.all isTargetChar then stripCastsOf front
        else strip cs := by
    intro front target h
    rw [stripCastsOf_of_splitsAtCast h, isCastTarget_stripEnd]
  refine { uncut := stripCastsOf_of_not_exists, cut := hcut, behind := ?_ }
  -- behind
  intro front type more h htype hquote
  have hvisible := all_isBlank_of_isTypeName htype
  have hown := List.all_eq_true.2 (isTargetChar_of_isTypeName htype hquote)
  rw [hcut front _ h, List.all_append, List.all_append, hvisible, hown, Bool.false_and,
    Bool.not_false, Bool.true_and, Bool.true_and]

/-- A comparison with a list is removed together with the cast before it. -/
theorem stripCasts_in_list :
    stripCasts "0::integer IN (0, 1)" = "0" ∧ isTypeName "integer IN (0, 1)".toList = false :=
  ⟨by rfl, by decide⟩

end SchemaCodegen.ServerDefault
