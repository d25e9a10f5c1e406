import SchemaCodegen.Naming.Names
import SchemaCodegen.Proofs.Text.Plain

/-!
# Proofs: the characters of generated names

Names of classes are made of ASCII letters and digits, names of variables of word characters, names
of attributes of the characters of identifiers. All of these are characters of names, and a name
that was made free with underscores has no others.
-/

namespace SchemaCodegen.Naming

open SchemaCodegen.Text

/-! ## Letters and digits -/

/-- A property of the characters below U+0080 is one of all letters and digits. -/
theorem forall_isAlphanum {p : Char → Prop} (h : ∀ n < 128, p (Char.ofNat n)) {c : Char}
    (hc : c.isAlphanum = true) : p c := by
  have hlt : c.toNat < 128 := by
    delta Char.isAlphanum Char.isAlpha Char.isUpper Char.isLower Char.isDigit at hc
    simp only [Bool.or_eq_true, Bool.and_eq_true, decide_eq_true_eq, ge_iff_le,
      UInt32.le_iff_toNat_le, Char.toNat_val, Char.reduceVal, UInt32.reduceToNat] at hc
    omega
  simpa using h c.toNat hlt

theorem isAlphanum_toUpper {c : Char} (h : c.isAlphanum = true) : c.toUpper.isAlphanum = true := by
  refine forall_isAlphanum (p := fun c => c.isAlphanum = true → c.toUpper.isAlphanum = true) ?_ h h
  decide

theorem isAlphanum_of_mem_capitalFirst {word : List Char} (h : ∀ c ∈ word, c.isAlphanum = true) :
    ∀ c ∈ capitalFirst word, c.isAlphanum = true := by
  cases word with
  | nil => simp [capitalFirst]
  | cons c rest =>
    rw [List.forall_mem_cons] at h
    rw [capitalFirst, List.forall_mem_cons]
    exact ⟨isAlphanum_toUpper h.1, h.2⟩

/-! ## Words -/

/-- Whether a character is a small letter or a digit. -/
def isWordSign (c : Char) : Bool :=
  c.isLower || c.isDigit

theorem isAlphanum_of_isWordSign {c : Char} (h : isWordSign c = true) : c.isAlphanum = true := by
  rw [isWordSign, Bool.or_eq_true] at h
  unfold Char.isAlphanum Char.isAlpha
  rcases h with h | h
  · simp [h]
  · simp [h]

/-- The small form of a letter or digit is a small letter or a digit. -/
theorem isWordSign_toLower {c : Char} (h : c.isAlphanum = true) : isWordSign c.toLower = true := by
  refine forall_isAlphanum (p := fun c => c.isAlphanum = true → isWordSign c.toLower = true) ?_ h h
  decide

/-- Words are made of small letters and digits. -/
theorem isWordSign_of_mem_wordsOf {name word : List Char} (h : word ∈ wordsOf name) :
    ∀ c ∈ word, isWordSign c = true := by
  intro c hc
  obtain ⟨spelled, hspelled, rfl⟩ := List.mem_map.1 h
  obtain ⟨d, hd, rfl⟩ := List.mem_map.1 hc
  have hmem : d ∈ (splitWords name).flatten := List.mem_flatten.2 ⟨spelled, hspelled, hd⟩
  rw [flatten_splitWords, List.mem_filter] at hmem
  exact isWordSign_toLower hmem.2

theorem isWordSign_of_lookup {word singular : String}
    (h : irregularPlurals.lookup word = some singular) :
    ∀ c ∈ singular.toList, isWordSign c = true := by
  have hall : ∀ pair ∈ irregularPlurals, pair.2.toList.all isWordSign = true := by decide
  obtain ⟨before, after, he, _⟩ := List.lookup_eq_some_iff.1 h
  exact List.all_eq_true.1 (hall (word, singular) (he ▸ by simp))

/-- A word does not begin with a capital. -/
theorem startsUpper_eq_false {word : List Char} (h : ∀ c ∈ word, isWordSign c = true) :
    startsUpper word = false := by
  cases word with
  | nil => rfl
  | cons c rest =>
    have hsign := h c (List.mem_cons_self ..)
    refine forall_isAlphanum (p := fun c => isWordSign c = true → c.isUpper = false) ?_
      (isAlphanum_of_isWordSign hsign) hsign
    decide

theorem isWordSign_of_mem_singularOf {word : List Char} (h : ∀ c ∈ word, isWordSign c = true) :
    ∀ c ∈ singularOf word, isWordSign c = true := by
  have hadded : ∀ rule ∈ endingRules, rule.added.toList.all isWordSign = true := by decide
  rw [singularOf]
  split
  · next singular hlookup =>
    rw [startsUpper_eq_false h, if_neg Bool.false_ne_true]
    exact isWordSign_of_lookup hlookup
  · split
    · next rule hrule =>
      intro c hc
      rcases List.mem_append.1 hc with hc | hc
      · exact h c (List.mem_of_mem_take hc)
      · exact List.all_eq_true.1 (hadded rule (List.mem_of_find?_eq_some hrule)) c hc
    · exact h

theorem isWordSign_of_mem_singularLast {words : List (List Char)}
    (h : ∀ word ∈ words, ∀ c ∈ word, isWordSign c = true) :
    ∀ word ∈ singularLast words, ∀ c ∈ word, isWordSign c = true := by
  induction words with
  | nil => simp [singularLast]
  | cons word words ih =>
    rw [List.forall_mem_cons] at h
    cases words with
    | nil => simpa [singularLast] using isWordSign_of_mem_singularOf h.1
    | cons next words =>
      rw [singularLast, List.forall_mem_cons]
      · exact ⟨h.1, ih h.2⟩
      · simp

/-- The words that a class name is made of. -/
def chosenWords (table : String) (useSingular : Bool) : List (List Char) :=
  if useSingular then singularLast (wordsOf table.toList) else wordsOf table.toList

theorem isWordSign_of_mem_chosenWords (table : String) (useSingular : Bool) :
    ∀ word ∈ chosenWords table useSingular, ∀ c ∈ word, isWordSign c = true := by
  have hwords : ∀ word ∈ wordsOf table.toList, ∀ c ∈ word, isWordSign c = true :=
    fun _ hword => isWordSign_of_mem_wordsOf hword
  unfold chosenWords
  split
  · exact isWordSign_of_mem_singularLast hwords
  · exact hwords

/-- The chosen words, each with a capital, as a class name has them. -/
theorem isAlphanum_of_mem_capitals (table : String) (useSingular : Bool) :
    ∀ c ∈ (chosenWords table useSingular).flatMap capitalFirst, c.isAlphanum = true := by
  intro c hc
  obtain ⟨word, hword, hc⟩ := List.mem_flatMap.1 hc
  have hsigns := isWordSign_of_mem_chosenWords table useSingular word hword
  exact isAlphanum_of_mem_capitalFirst (fun d hd => isAlphanum_of_isWordSign (hsigns d hd)) c hc

/-- A class name is made of its words, with a name for no words and a letter before a digit. -/
theorem className_eq (table : String) (useSingular : Bool) :
    className table useSingular =
      match (chosenWords table useSingular).flatMap capitalFirst with
      | [] => "Table"
      | c :: rest => String.ofList (if c.isDigit then 'T' :: c :: rest else c :: rest) :=
  rfl

/-- Class names are made of letters and digits. -/
theorem isMadeOf_className (table : String) (useSingular : Bool) :
    IsMadeOf Char.isAlphanum (className table useSingular) := by
  have hall := isAlphanum_of_mem_capitals table useSingular
  rw [className_eq]
  split
  · exact isMadeOf_of_all rfl
  · next c rest heq =>
    rw [heq] at hall
    refine isMadeOf_ofList ?_
    split
    · exact List.forall_mem_cons.2 ⟨rfl, hall⟩
    · exact hall

/-! ## Names -/

theorem isNameChar_of_isAlphanum {c : Char} (h : c.isAlphanum = true) : isNameChar c = true :=
  forall_isAlphanum (p := fun c => c.isAlphanum = true → isNameChar c = true) (by decide) h h

theorem isName_className (table : String) (useSingular : Bool) :
    IsName (className table useSingular) :=
  (isMadeOf_className table useSingular).mono fun _ => isNameChar_of_isAlphanum

theorem isNameChar_of_isWordChar {c : Char} (h : isWordChar c = true) : isNameChar c = true := by
  unfold isNameChar
  rw [h, Bool.or_true]

theorem isNameChar_of_mem_underscored {name : List Char} :
    ∀ c ∈ underscored name, isNameChar c = true := by
  intro c hc
  obtain ⟨d, _, rfl⟩ := List.mem_map.1 hc
  split
  · next h => exact isNameChar_of_isWordChar h
  · decide

theorem isName_variableName (table : String) : IsName (variableName table) :=
  IsMadeOf.append (s := "t_") (by decide) (isMadeOf_ofList isNameChar_of_mem_underscored)

theorem isName_of_isIdentifier {name : String} (h : isIdentifier name = true) : IsName name := by
  intro c hc
  unfold isIdentifier at h
  unfold isNameChar
  cases hcs : name.toList with
  | nil =>
    rw [hcs] at hc
    cases hc
  | cons first rest =>
    rw [hcs] at hc h
    rw [isIdentifierOf, Bool.and_eq_true, List.all_eq_true] at h
    rcases List.mem_cons.1 hc with rfl | hc
    · rw [h.1, Bool.true_or, Bool.true_or]
    · rw [h.2 c hc, Bool.or_true, Bool.true_or]

/-- A guarded start is the text itself or has an underscore before it. -/
theorem guardStart_eq_or (name : List Char) :
    guardStart name = name ∨ guardStart name = '_' :: name := by
  cases name with
  | nil => exact Or.inr rfl
  | cons first rest =>
    rw [guardStart]
    split
    · exact Or.inr rfl
    · exact Or.inl rfl

theorem guardStart_ne_nil (name : List Char) : guardStart name ≠ [] := by
  cases name with
  | nil => simp [guardStart]
  | cons first rest =>
    rw [guardStart]
    split
    · simp
    · simp

theorem isNameChar_of_mem_guardStart {name : List Char} (h : ∀ c ∈ name, isNameChar c = true) :
    ∀ c ∈ guardStart name, isNameChar c = true := by
  rcases guardStart_eq_or name with he | he
  · rwa [he]
  · rw [he]
    exact List.forall_mem_cons.2 ⟨by decide, h⟩

theorem isName_attributeName (column : String) : IsName (attributeName column) := by
  rw [attributeName]
  split
  · next h => exact isName_of_isIdentifier (Bool.and_eq_true_iff.1 h).1
  · have hrepaired : IsName (String.ofList (guardStart (underscored column.toList))) :=
      isMadeOf_ofList (isNameChar_of_mem_guardStart isNameChar_of_mem_underscored)
    dsimp only
    split
    · exact hrepaired.push (by decide)
    · exact hrepaired

/-! ## Free names -/

/-- A name of a class that has the underscore stays in the class when it is made free. -/
theorem isMadeOf_freeName {p : Char → Bool} (hp : p '_' = true) (taken : List String)
    {name : String} (h : IsMadeOf p name) : IsMadeOf p (freeName taken name) := by
  have hwithin : ∀ n name, IsMadeOf p name → IsMadeOf p (freeWithin n taken name) := by
    intro n
    induction n with
    | zero => exact fun _ h => h
    | succ n ih =>
      intro name h
      rw [freeWithin]
      split
      · exact ih _ (h.push hp)
      · exact h
  exact hwithin _ _ h

theorem isMadeOf_claimAll {p : Char → Bool} (hp : p '_' = true) {taken names : List String}
    (h : ∀ name ∈ names, IsMadeOf p name) : ∀ free ∈ (claimAll taken names).1, IsMadeOf p free := by
  induction names generalizing taken with
  | nil => simp [claimAll]
  | cons name names ih =>
    rw [List.forall_mem_cons] at h
    rw [claimAll, List.forall_mem_cons]
    exact ⟨isMadeOf_freeName hp taken h.1, ih h.2⟩

end SchemaCodegen.Naming
