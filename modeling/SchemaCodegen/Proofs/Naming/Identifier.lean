import Mathlib.Data.List.TakeWhile
import SchemaCodegen.Proofs.Naming.FreeName

/-!
# Proofs: which names are identifiers

Class names are always identifiers, and keywords only where their words come to `False`, `None` or
`True`. Names of attributes and variables are never keywords. They keep the word characters of the
names that they are made from, and not all word characters belong to identifiers: `½` is one and
does not. So these names are identifiers exactly if the word characters that they keep are characters
of identifiers at their places.
-/

namespace SchemaCodegen.Naming

open SchemaCodegen.Text

/-! ## Characters of identifiers -/

/-- Whether the first ranges lie in the others, both in increasing order: each of the others takes
away from the front what lies in it, until nothing is left. -/
def liesWithin : List (Nat × Nat) → List (Nat × Nat) → Bool
  | ranges, [] => ranges.isEmpty
  | ranges, other :: others =>
    liesWithin (ranges.dropWhile fun range => other.1.ble range.1 && range.2.ble other.2) others

theorem inRanges_of_liesWithin {ranges others : List (Nat × Nat)}
    (h : liesWithin ranges others = true) {n : Nat} (hn : inRanges ranges n = true) :
    inRanges others n = true := by
  induction others generalizing ranges with
  | nil =>
    rw [List.isEmpty_iff.1 h] at hn
    cases hn
  | cons other others ih =>
    rw [inRanges, List.any_cons, Bool.or_eq_true]
    -- the ranges that lie in the first of the others stand before all that do not
    rw [← List.takeWhile_append_dropWhile (p := fun range : Nat × Nat =>
      other.1.ble range.1 && range.2.ble other.2) (l := ranges), inRanges, List.any_append,
      Bool.or_eq_true] at hn
    rcases hn with hn | hn
    · obtain ⟨range, hrange, hin⟩ := List.any_eq_true.1 hn
      have hinside := List.mem_takeWhile_imp hrange
      simp only [Bool.and_eq_true, decide_eq_true_eq, Nat.ble_eq] at hin hinside ⊢
      exact Or.inl ⟨hinside.1.trans hin.1, hin.2.trans hinside.2⟩
    · exact Or.inr (ih h hn)

theorem isIdentifierContinue_of_isIdentifierStart {c : Char} (h : isIdentifierStart c = true) :
    isIdentifierContinue c = true := by
  have hranges : liesWithin identifierStartRanges identifierContinueRanges = true := by
    decide +kernel
  unfold isIdentifierStart at h
  unfold isIdentifierContinue
  split at h
  · next hc =>
    rw [if_pos hc]
    unfold Char.isAlphanum
    rw [Bool.or_eq_true] at h
    rcases h with h | h
    · simp [h]
    · simp [h]
  · next hc =>
    rw [if_neg hc]
    exact inRanges_of_liesWithin hranges h

theorem isIdentifierContinue_of_isAlphanum {c : Char} (h : c.isAlphanum = true) :
    isIdentifierContinue c = true :=
  forall_isAlphanum (p := fun c => c.isAlphanum = true → isIdentifierContinue c = true) (by decide)
    h h

theorem isIdentifierStart_of_isAlphanum {c : Char} (h : c.isAlphanum = true)
    (hdigit : c.isDigit = false) : isIdentifierStart c = true := by
  refine forall_isAlphanum
    (p := fun c => c.isAlphanum = true → c.isDigit = false → isIdentifierStart c = true) ?_ h h hdigit
  decide

/-! ## Free names -/

theorem extended_one (name : String) : extended name 1 = name.push '_' :=
  rfl

theorem isIdentifier_extended {name : String} (h : name ≠ "") (n : Nat) :
    isIdentifier (extended name n) = isIdentifier name := by
  have hunderscore : isIdentifierContinue '_' = true := by decide
  unfold isIdentifier
  rw [toList_extended]
  cases hcs : name.toList with
  | nil => exact absurd (String.toList_eq_nil_iff.1 hcs) h
  | cons c rest => simp [isIdentifierOf, hunderscore]

theorem isIdentifier_freeName {name : String} (h : name ≠ "") (taken : List String) :
    isIdentifier (freeName taken name) = isIdentifier name := by
  obtain ⟨n, hn⟩ := freeName_eq_extended taken name
  rw [hn, isIdentifier_extended h]

/-- A free name is a keyword only if the name itself is one and was free. -/
theorem isKeyword_freeName_iff (taken : List String) (name : String) :
    isKeyword (freeName taken name) = true ↔ name ∉ taken ∧ isKeyword name = true := by
  by_cases hfree : name ∈ taken
  · have hunderscore : (freeName taken name).toList.getLast? = some '_' := by
      refine (freeName_eq_or taken name).resolve_left fun he => ?_
      exact freeName_not_mem taken name (he.symm ▸ hfree)
    rw [isKeyword_of_isReservedAttribute (isReservedAttribute_of_getLast? hunderscore)]
    simp [hfree]
  · rw [freeName_eq_self hfree]
    simp [hfree]

/-! ## Class names -/

theorem isIdentifier_className (table : String) (useSingular : Bool) :
    isIdentifier (className table useSingular) = true := by
  have hall := isAlphanum_of_mem_capitals table useSingular
  unfold isIdentifier
  rw [className_eq]
  split
  · decide
  · next c rest heq =>
    rw [heq] at hall
    have hcontinue : ∀ d ∈ c :: rest, isIdentifierContinue d = true :=
      fun d hd => isIdentifierContinue_of_isAlphanum (hall d hd)
    rw [String.toList_ofList]
    split
    · rw [isIdentifierOf, List.all_eq_true.2 hcontinue]
      rfl
    · next hdigit =>
      rw [List.forall_mem_cons] at hall hcontinue
      rw [isIdentifierOf, List.all_eq_true.2 hcontinue.2, Bool.and_true]
      exact isIdentifierStart_of_isAlphanum hall.1 (by simpa using hdigit)

/-- Most names are the name of a class exactly if the words with their capitals make them. -/
theorem className_eq_iff {table name : String} {useSingular : Bool} (hempty : name ≠ "")
    (htable : name ≠ "Table") (hdigit : ∀ c ∈ name.toList, c.isDigit = false) :
    className table useSingular = name ↔
      (chosenWords table useSingular).flatMap capitalFirst = name.toList := by
  rw [className_eq]
  cases (chosenWords table useSingular).flatMap capitalFirst with
  | nil => exact iff_of_false htable.symm fun h => hempty (String.toList_eq_nil_iff.1 h.symm)
  | cons c rest =>
    rw [← String.toList_inj, String.toList_ofList]
    by_cases hc : c.isDigit = true
    · have hname : c ∉ name.toList := fun hmem => by simp [hdigit c hmem] at hc
      rw [if_pos hc]
      refine iff_of_false (fun h => hname ?_) fun h => hname ?_
      · simp [← h]
      · simp [← h]
    · rw [if_neg hc]

theorem flatMap_capitalFirst_eq_nil_iff {words : List (List Char)} :
    words.flatMap capitalFirst = [] ↔ words.filter (!·.isEmpty) = [] := by
  rw [List.flatMap_eq_nil_iff, List.filter_eq_nil_iff]
  refine forall₂_congr fun word _ => ?_
  cases word with
  | nil => simp [capitalFirst]
  | cons c rest => simp [capitalFirst]

/-- A capital tells a letter, because words are in small letters. -/
theorem eq_of_toUpper_eq {c d : Char} (hc : isWordSign c = true) (hd : isWordSign d = true)
    (h : c.toUpper = d.toUpper) : c = d := by
  have hback : ∀ {c : Char}, isWordSign c = true → c.toUpper.toLower = c := by
    intro c hc
    refine forall_isAlphanum (p := fun c => isWordSign c = true → c.toUpper.toLower = c) ?_
      (isAlphanum_of_isWordSign hc) hc
    decide
  rw [← hback hc, h, hback hd]

/-- Words with their capitals come to a single word without digits if there is no other word. -/
theorem flatMap_capitalFirst_eq_iff {words : List (List Char)}
    (h : ∀ word ∈ words, ∀ c ∈ word, isWordSign c = true) {word : List Char} (hne : word ≠ [])
    (hlower : ∀ c ∈ word, c.isLower = true) :
    words.flatMap capitalFirst = capitalFirst word ↔ words.filter (!·.isEmpty) = [word] := by
  obtain ⟨d, tail, rfl⟩ := List.exists_cons_of_ne_nil hne
  induction words with
  | nil => simp [capitalFirst]
  | cons first words ih =>
    rw [List.forall_mem_cons] at h hlower
    have hmore := isLower_of_mem_head?_capitals h.2
    cases first with
    | nil => simpa [capitalFirst] using ih h.2
    | cons c rest =>
      rw [List.flatMap_cons, capitalFirst, capitalFirst, List.cons_append, List.cons_eq_cons,
        List.filter_cons_of_pos (by simp), List.cons_eq_cons, List.cons_eq_cons,
        ← flatMap_capitalFirst_eq_nil_iff]
      generalize words.flatMap capitalFirst = more at hmore
      constructor
      · rintro ⟨hupper, htail⟩
        have hmoreNil : more = [] := by
          -- another word would begin with a capital or a digit
          cases more with
          | nil => rfl
          | cons e more =>
            have he := hlower.2 e (htail ▸ by simp)
            rw [hmore e rfl] at he
            cases he
        subst hmoreNil
        have hd : isWordSign d = true := by
          rw [isWordSign, hlower.1, Bool.true_or]
        exact ⟨⟨eq_of_toUpper_eq (h.1 c (List.mem_cons_self ..)) hd hupper, by simpa using htail⟩,
          rfl⟩
      · rintro ⟨⟨rfl, rfl⟩, rfl⟩
        exact ⟨rfl, List.append_nil _⟩

/-- The words that, with a capital, are keywords. -/
def keywordWords : List String :=
  ["false", "none", "true"]

/-- A class name is a keyword exactly if all its words but one are empty, and that one makes a
keyword. -/
theorem isKeyword_className_iff (table : String) (useSingular : Bool) :
    isKeyword (className table useSingular) = true ↔
      ∃ word ∈ keywordWords,
        (chosenWords table useSingular).filter (!·.isEmpty) = [word.toList] := by
  have hwords := isWordSign_of_mem_chosenWords table useSingular
  have hkeyword : ∀ word ∈ keywordWords, isKeyword (String.ofList (capitalFirst word.toList)) ∧
      word.toList ≠ [] ∧ word.toList.all Char.isLower = true ∧
      String.ofList (capitalFirst word.toList) ≠ "Table" ∧
      (capitalFirst word.toList).any Char.isDigit = false := by
    decide
  have hmade : ∀ word ∈ keywordWords,
      (className table useSingular = String.ofList (capitalFirst word.toList) ↔
        (chosenWords table useSingular).filter (!·.isEmpty) = [word.toList]) := by
    intro word hword
    obtain ⟨_, hne, hlower, htable, hdigit⟩ := hkeyword word hword
    have hempty : String.ofList (capitalFirst word.toList) ≠ "" := by
      obtain ⟨c, rest, hcs⟩ := List.exists_cons_of_ne_nil hne
      simp [hcs, capitalFirst]
    rw [className_eq_iff hempty htable (by simpa using hdigit), String.toList_ofList,
      flatMap_capitalFirst_eq_iff hwords hne (List.all_eq_true.1 hlower)]
  constructor
  · intro h
    -- of the keywords only these do not begin with a small letter
    have hcapital : ∀ name ∈ keywords, name.toList.head?.any Char.isLower = false →
        ∃ word ∈ keywordWords, name = String.ofList (capitalFirst word.toList) := by
      decide
    have hhead : (className table useSingular).toList.head?.any Char.isLower = false := by
      rw [Option.any_eq_false]
      exact fun c hc => by simp [isLower_of_mem_head?_className table useSingular c hc]
    obtain ⟨word, hword, heq⟩ := hcapital _ (List.contains_iff_mem.1 h) hhead
    exact ⟨word, hword, (hmade word hword).1 heq⟩
  · rintro ⟨word, hword, hfilter⟩
    rw [(hmade word hword).2 hfilter]
    exact (hkeyword word hword).1

/-- The name of a class, made free among any names, is an identifier. It is a keyword exactly if
nothing had to be added and all words of the table but one are empty, and that one makes a
keyword. -/
theorem isKeyword_freeName_className_iff (taken : List String) (table : String)
    (useSingular : Bool) :
    isIdentifier (freeName taken (className table useSingular)) = true ∧
      (isKeyword (freeName taken (className table useSingular)) = true ↔
        className table useSingular ∉ taken ∧ ∃ word ∈ keywordWords,
          (chosenWords table useSingular).filter (!·.isEmpty) = [word.toList]) := by
  have hidentifier := isIdentifier_className table useSingular
  have hempty : className table useSingular ≠ "" := by
    intro he
    rw [he] at hidentifier
    cases hidentifier
  refine ⟨(isIdentifier_freeName hempty taken).trans hidentifier, ?_⟩
  rw [isKeyword_freeName_iff, isKeyword_className_iff]

/-- A table can give its class a keyword for a name. -/
theorem isKeyword_freeName_none :
    freeName [] (className "none" false) = "None" ∧
      isKeyword (freeName [] (className "none" false)) = true := by
  decide

/-! ## Names of attributes and variables -/

/-- Whether the character is replaced in a name, or may continue an identifier. -/
def mayContinue (c : Char) : Bool :=
  !isWordChar c || isIdentifierContinue c

/-- Whether the character is replaced at the start of a name, gets an underscore before it, or may
start an identifier. -/
def mayBegin (c : Char) : Bool :=
  !isWordChar c || isDigitChar c || isIdentifierStart c

theorem all_underscored (name : List Char) :
    (underscored name).all isIdentifierContinue = name.all mayContinue := by
  have hunderscore : isIdentifierContinue '_' = true := by decide
  rw [underscored, List.all_map]
  refine List.all_congr rfl fun c => ?_
  rw [Function.comp_apply, mayContinue]
  split
  · next h => simp [h]
  · next h => simp [h, hunderscore]

/-- A repaired name is an identifier exactly if its characters were fit for one. -/
theorem isIdentifierOf_guardStart (name : List Char) :
    isIdentifierOf (guardStart (underscored name)) =
      (name.head?.all mayBegin && name.all mayContinue) := by
  have hunderscore : isIdentifierStart '_' = true := by decide
  have hall := all_underscored name
  cases name with
  | nil => decide
  | cons c rest =>
    rw [underscored, List.map_cons] at hall ⊢
    rw [guardStart, List.head?_cons, Option.all_some, ← hall, List.all_cons, mayBegin]
    by_cases hword : isWordChar c = true
    · rw [if_pos hword, hword]
      by_cases hdigit : isDigitChar c = true
      · simp [isIdentifierOf, hdigit, hunderscore]
      · -- the start of an identifier is one of the characters that continue it
        cases hstart : isIdentifierStart c with
        | false => simp [isIdentifierOf, hdigit, hstart]
        | true =>
          simp [isIdentifierOf, hdigit, hstart, isIdentifierContinue_of_isIdentifierStart hstart]
    · have hkept : isDigitChar '_' = false ∧ isIdentifierContinue '_' = true := by decide
      simp [isIdentifierOf, hword, hunderscore, hkept]

theorem all_of_isIdentifierOf {name : List Char} (h : isIdentifierOf name = true) :
    (name.head?.all mayBegin && name.all mayContinue) = true := by
  cases name with
  | nil => rfl
  | cons c rest =>
    rw [isIdentifierOf, Bool.and_eq_true] at h
    have hrest : rest.all mayContinue = true := by
      refine List.all_eq_true.2 fun d hd => ?_
      rw [mayContinue, List.all_eq_true.1 h.2 d hd, Bool.or_true]
    simp [mayBegin, mayContinue, h.1, isIdentifierContinue_of_isIdentifierStart h.1, hrest]

theorem isIdentifier_attributeName (column : String) :
    isIdentifier (attributeName column) =
      (column.toList.head?.all mayBegin && column.toList.all mayContinue) := by
  rw [attributeName]
  split
  · next h =>
    have hidentifier := (Bool.and_eq_true_iff.1 h).1
    rw [hidentifier, all_of_isIdentifierOf hidentifier]
  · have hrepaired :
        isIdentifier (String.ofList (guardStart (underscored column.toList))) =
          (column.toList.head?.all mayBegin && column.toList.all mayContinue) := by
      rw [isIdentifier, String.toList_ofList, isIdentifierOf_guardStart]
    dsimp only
    split
    · next hreserved =>
      have hempty : isReservedAttribute "" = false := by decide
      rw [← extended_one, isIdentifier_extended, hrepaired]
      intro hnone
      rw [hnone, hempty] at hreserved
      cases hreserved
    · exact hrepaired

theorem isIdentifier_variableName (table : String) :
    isIdentifier (variableName table) = table.toList.all mayContinue := by
  have hprefix : isIdentifierStart 't' = true ∧ isIdentifierContinue '_' = true := by decide
  rw [isIdentifier, variableName, String.toList_append, String.toList_ofList, ← all_underscored]
  simp [isIdentifierOf, hprefix]

theorem attributeName_ne_empty (column : String) : attributeName column ≠ "" := by
  rw [attributeName]
  split
  · next h =>
    rintro rfl
    cases h
  · dsimp only
    split
    · simp [← String.toList_inj]
    · simp [← String.toList_inj, guardStart_ne_nil]

/-- Variable names are not keywords, because no keyword begins as they do. -/
theorem isKeyword_freeName_variableName (taken : List String) (table : String) :
    isKeyword (freeName taken (variableName table)) = false := by
  have hall : ∀ word ∈ keywords, ¬ ['t', '_'] <+: word.toList := by decide
  by_contra hkeyword
  rw [Bool.not_eq_false, isKeyword, List.contains_iff_mem] at hkeyword
  exact hall _ hkeyword ((isPrefix_variableName table).trans (toList_isPrefix_freeName ..))

/-- The name of an attribute, made free among any names, is an identifier exactly if what the repair
keeps of the column's name is fit for one. It is never a keyword and never a name that the base
class uses. The name of a variable is an identifier exactly if what it keeps of the table's name may
continue one. It is never a keyword. -/
theorem isIdentifier_freeName_attributeName (taken : List String) (name : String) :
    (isIdentifier (freeName taken (attributeName name)) =
        (name.toList.head?.all mayBegin && name.toList.all mayContinue) ∧
      isKeyword (freeName taken (attributeName name)) = false ∧
      freeName taken (attributeName name) ∉ baseAttributes) ∧
    isIdentifier (freeName taken (variableName name)) = name.toList.all mayContinue ∧
    isKeyword (freeName taken (variableName name)) = false := by
  have hreserved := isReservedAttribute_freeName (isReservedAttribute_attributeName name) taken
  have hvariable : variableName name ≠ "" := by
    simp [variableName]
  refine ⟨⟨?_, isKeyword_of_isReservedAttribute hreserved, ?_⟩, ?_,
    isKeyword_freeName_variableName taken name⟩
  · rw [isIdentifier_freeName (attributeName_ne_empty name), isIdentifier_attributeName]
  · exact fun hmem => by simp [isReservedAttribute, hmem] at hreserved
  · rw [isIdentifier_freeName hvariable, isIdentifier_variableName]

/-- The names of a column and of a table can keep a character that belongs to no identifier. -/
theorem isIdentifier_attributeName_half :
    isIdentifier (attributeName "½") = false ∧ isIdentifier (variableName "½") = false := by
  decide +kernel

end SchemaCodegen.Naming
