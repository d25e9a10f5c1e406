import Mathlib.Data.List.Flatten
import SchemaCodegen.Proofs.Naming.Plain
import SchemaCodegen.Proofs.Text.Case

/-!
# Proofs: the words of a name

The words of a name are told by a pattern that is searched for from the left. It has four
alternatives: small letters, with a capital before them or without; as many capitals as possible, if
a capital with a small letter, a digit or the end of the run follows; one capital; digits. The cut
of a name by neighbouring characters finds the same words. It passes over what is no letter or digit
and over nothing else, so the words make up the letters and digits of the name, run by run.
-/

namespace SchemaCodegen.Naming

open SchemaCodegen.Text

/-! ## The pattern -/

/-- The name with a blank in the place of everything that is no letter or digit. -/
def cleaned (name : List Char) : List Char :=
  name.map fun c => if c.isAlphanum then c else ' '

/-- One or more characters of a kind, as many as there are. -/
def some? (p : Char → Bool) (text : List Char) : Option (List Char) :=
  match text.takeWhile p with
  | [] => none
  | c :: rest => some (c :: rest)

/-- A capital and small letters. -/
def capitalized? : List Char → Option (List Char)
  | [] => none
  | c :: rest => if c.isUpper then (some? Char.isLower rest).map (c :: ·) else none

/-- Whether capitals may end in front of the text. -/
def endsCapitals : List Char → Bool
  | [] => true
  | c :: rest => (c.isUpper && startsLower rest) || c.isDigit || !c.isAlphanum

/-- As many capitals as possible, at least one, that may end where they do. -/
def capitals? : List Char → Option (List Char)
  | [] => none
  | c :: rest =>
    if c.isUpper then
      (capitals? rest).map (c :: ·) <|> if endsCapitals rest then some [c] else none
    else none

/-- One capital. -/
def capital? : List Char → Option (List Char)
  | [] => none
  | c :: _ => if c.isUpper then some [c] else none

/-- What the pattern matches at the front of the text: the first alternative that matches. -/
def wordAt? (text : List Char) : Option (List Char) :=
  (capitalized? text <|> some? Char.isLower text) <|> capitals? text <|> capital? text <|>
    some? Char.isDigit text

/-- The words that a search from the left finds in a text. Behind a match the search goes on where
the match ends, and one character further on where there is none. -/
inductive Finds : List Char → List (List Char) → Prop where
  /-- Nothing is left. -/
  | done : Finds [] []
  /-- No match. -/
  | skip {c : Char} {rest : List Char} {words : List (List Char)}
      (hword : wordAt? (c :: rest) = none) (hrest : Finds rest words) : Finds (c :: rest) words
  /-- A match. -/
  | found {word rest : List Char} {words : List (List Char)}
      (hword : wordAt? (word ++ rest) = some word) (hrest : Finds rest words) :
      Finds (word ++ rest) (word :: words)

/-! ## Kinds of characters -/

/-- A letter or digit is of one kind. -/
theorem isAlphanum_cases {c : Char} (h : c.isAlphanum = true) :
    (c.isUpper = true ∧ c.isLower = false ∧ c.isDigit = false) ∨
      (c.isUpper = false ∧ c.isLower = true ∧ c.isDigit = false) ∨
      (c.isUpper = false ∧ c.isLower = false ∧ c.isDigit = true) := by
  refine forall_isAlphanum (p := fun c => c.isAlphanum = true →
    (c.isUpper = true ∧ c.isLower = false ∧ c.isDigit = false) ∨
      (c.isUpper = false ∧ c.isLower = true ∧ c.isDigit = false) ∨
      (c.isUpper = false ∧ c.isLower = false ∧ c.isDigit = true)) ?_ h h
  decide

theorem isAlphanum_eq (c : Char) : c.isAlphanum = ((c.isUpper || c.isLower) || c.isDigit) :=
  rfl

theorem of_isUpper {c : Char} (h : c.isUpper = true) :
    c.isAlphanum = true ∧ c.isLower = false ∧ c.isDigit = false := by
  have hc : c.isAlphanum = true := by simp [isAlphanum_eq, h]
  rcases isAlphanum_cases hc with hk | hk | hk <;> simp_all

theorem of_isLower {c : Char} (h : c.isLower = true) :
    c.isAlphanum = true ∧ c.isUpper = false ∧ c.isDigit = false := by
  have hc : c.isAlphanum = true := by simp [isAlphanum_eq, h]
  rcases isAlphanum_cases hc with hk | hk | hk <;> simp_all

theorem of_isDigit {c : Char} (h : c.isDigit = true) :
    c.isAlphanum = true ∧ c.isUpper = false ∧ c.isLower = false := by
  have hc : c.isAlphanum = true := by simp [isAlphanum_eq, h]
  rcases isAlphanum_cases hc with hk | hk | hk <;> simp_all

theorem isLower_toLower {c : Char} (h : c.isAlpha = true) : c.toLower.isLower = true := by
  have hc : c.isAlphanum = true := by simp [Char.isAlphanum, h]
  exact forall_isAlphanum (p := fun c => c.isAlpha = true → c.toLower.isLower = true)
    (by decide) hc h

theorem isDigit_toLower {c : Char} (h : c.isAlphanum = true) : c.toLower.isDigit = c.isDigit :=
  forall_isAlphanum (p := fun c => c.toLower.isDigit = c.isDigit) (by decide) h

theorem joins_cons (c d : Char) (rest : List Char) :
    joins c (d :: rest) = ((d.isLower && (c.isUpper || c.isLower)) || (d.isDigit && c.isDigit) ||
      (d.isUpper && c.isUpper && !startsLower rest)) :=
  rfl

theorem joins_of_isLower {c : Char} (h : c.isLower = true) (d : Char) (rest : List Char) :
    joins c (d :: rest) = d.isLower := by
  obtain ⟨_, hu, hd⟩ := of_isLower h
  simp [joins_cons, h, hu, hd]

theorem joins_of_isDigit {c : Char} (h : c.isDigit = true) (d : Char) (rest : List Char) :
    joins c (d :: rest) = d.isDigit := by
  obtain ⟨_, hu, hl⟩ := of_isDigit h
  simp [joins_cons, h, hu, hl]

theorem joins_of_isUpper {c : Char} (h : c.isUpper = true) (d : Char) (rest : List Char) :
    joins c (d :: rest) = (d.isLower || (d.isUpper && !startsLower rest)) := by
  obtain ⟨_, _, hd⟩ := of_isUpper h
  simp [joins_cons, h, hd]

/-- What joins a word is a letter or digit. -/
theorem isAlphanum_of_joins {c d : Char} {rest : List Char} (h : joins c (d :: rest) = true) :
    d.isAlphanum = true := by
  rw [joins_cons] at h
  rw [isAlphanum_eq]
  cases hu : d.isUpper <;> cases hl : d.isLower <;> cases hd : d.isDigit <;> simp_all

/-! ## The first word -/

/-- The rest of the word that begins with `c`. -/
def wordTail (c : Char) : List Char → List Char
  | [] => []
  | d :: rest => if joins c (d :: rest) then d :: wordTail d rest else []

theorem wordTail_append_drop (c : Char) (rest : List Char) :
    wordTail c rest ++ rest.drop (wordTail c rest).length = rest := by
  induction rest generalizing c with
  | nil => rfl
  | cons d rest ih =>
    rw [wordTail]
    split
    · simpa using ih d
    · rfl

theorem splitWords_cons {c : Char} (hc : c.isAlphanum = true) (rest : List Char) :
    splitWords (c :: rest) =
      (c :: wordTail c rest) :: splitWords (rest.drop (wordTail c rest).length) := by
  induction rest generalizing c with
  | nil => simp [splitWords, hc, joins, wordTail]
  | cons d rest ih =>
    rw [splitWords, if_pos hc, wordTail]
    split
    · next hjoins =>
      rw [ih (isAlphanum_of_joins hjoins), attach, List.length_cons, List.drop_succ_cons]
    · rfl

theorem splitWords_cons_of_not {c : Char} (hc : c.isAlphanum = false) (rest : List Char) :
    splitWords (c :: rest) = splitWords rest := by
  rw [splitWords, hc, if_neg Bool.false_ne_true]

/-- What the first character of a word has, and each hands on to the next, the whole word has. -/
theorem forall_wordTail {p : Char → Prop}
    (hp : ∀ c d rest, p c → joins c (d :: rest) = true → p d) {c : Char} (hc : p c)
    (rest : List Char) : ∀ d ∈ wordTail c rest, p d := by
  induction rest generalizing c with
  | nil => exact List.forall_mem_nil p
  | cons d rest ih =>
    rw [wordTail]
    split
    · next hjoins =>
      have hd := hp c d rest hc hjoins
      exact List.forall_mem_cons.2 ⟨hd, ih hd⟩
    · exact List.forall_mem_nil p

theorem wordTail_eq_takeWhile {p : Char → Bool}
    (hp : ∀ c, p c = true → ∀ d rest, joins c (d :: rest) = p d) {c : Char} (hc : p c = true)
    (rest : List Char) : wordTail c rest = rest.takeWhile p := by
  induction rest generalizing c with
  | nil => rfl
  | cons d rest ih =>
    rw [wordTail, hp c hc]
    split
    · next hd => rw [List.takeWhile_cons_of_pos hd, ih hd]
    · next hd => rw [List.takeWhile_cons_of_neg hd]

/-! ## The pattern finds the words -/

theorem some?_cons_of_pos {p : Char → Bool} {c : Char} (h : p c = true) (rest : List Char) :
    some? p (c :: rest) = some (c :: rest.takeWhile p) := by
  rw [some?, List.takeWhile_cons_of_pos h]

theorem some?_cons_of_neg {p : Char → Bool} {c : Char} (h : p c = false) (rest : List Char) :
    some? p (c :: rest) = none := by
  rw [some?, List.takeWhile_cons_of_neg (by simp [h])]

/-- The pattern matches nothing in front of what is no letter or digit. -/
theorem wordAt?_of_not {c : Char} (hc : c.isAlphanum = false) (rest : List Char) :
    wordAt? (c :: rest) = none := by
  rw [isAlphanum_eq, Bool.or_eq_false_iff, Bool.or_eq_false_iff] at hc
  obtain ⟨⟨hu, hl⟩, hd⟩ := hc
  simp [wordAt?, capitalized?, capitals?, capital?, some?_cons_of_neg, hu, hl, hd]

theorem some?_isLower_eq_none {rest : List Char} (h : startsLower rest = false) :
    some? Char.isLower rest = none := by
  cases rest with
  | nil => rfl
  | cons d rest => exact some?_cons_of_neg h rest

theorem capitals?_of_startsLower {rest : List Char} (h : startsLower rest = true) :
    capitals? rest = none ∧ endsCapitals rest = false := by
  cases rest with
  | nil => cases h
  | cons d rest =>
    obtain ⟨ha, hu, hd⟩ := of_isLower h
    simp [capitals?, endsCapitals, ha, hu, hd]

/-- Capitals that no small letter follows are a word by the second alternative. The last of several
is left to the next word exactly if a small letter follows it. -/
theorem capitals?_cons {c : Char} (hc : c.isUpper = true) {rest : List Char}
    (h : startsLower rest = false) : capitals? (c :: rest) = some (c :: wordTail c rest) := by
  induction rest generalizing c with
  | nil => simp [capitals?, hc, endsCapitals, wordTail]
  | cons d rest ih =>
    have hd : d.isLower = false := h
    rw [capitals?, if_pos hc, wordTail, joins_of_isUpper hc, hd, Bool.false_or]
    cases hu : d.isUpper with
    | false =>
      -- the capitals end here: what follows is a digit or does not belong to the word
      have hends : endsCapitals (d :: rest) = true := by
        cases hdigit : d.isDigit <;> simp [endsCapitals, isAlphanum_eq, hu, hd, hdigit]
      have hmore : capitals? (d :: rest) = none := by simp [capitals?, hu]
      simp [hends, hmore]
    | true =>
      cases hs : startsLower rest with
      | false => simp [ih hu hs]
      | true =>
        obtain ⟨hnone, hgoes⟩ := capitals?_of_startsLower hs
        have hmore : capitals? (d :: rest) = none := by simp [capitals?, hnone, hgoes]
        have hends : endsCapitals (d :: rest) = true := by simp [endsCapitals, hu, hs]
        simp [hends, hmore]

/-- In front of a letter or digit the pattern matches the word that begins there. -/
theorem wordAt?_cons {c : Char} (hc : c.isAlphanum = true) (rest : List Char) :
    wordAt? (c :: rest) = some (c :: wordTail c rest) := by
  rcases isAlphanum_cases hc with ⟨hu, hl, hd⟩ | ⟨hu, hl, hd⟩ | ⟨hu, hl, hd⟩
  · -- a capital
    have hsmall : some? Char.isLower (c :: rest) = none := some?_cons_of_neg hl rest
    cases hs : startsLower rest with
    | true =>
      cases rest with
      | nil => cases hs
      | cons d rest =>
        have hjoins : joins c (d :: rest) = true := by
          rw [joins_of_isUpper hu, show d.isLower = true from hs, Bool.true_or]
        rw [wordTail, if_pos hjoins,
          wordTail_eq_takeWhile (p := Char.isLower) (fun _ => joins_of_isLower) hs]
        simp [wordAt?, capitalized?, hu, some?_cons_of_pos (p := Char.isLower) hs]
    | false =>
      simp [wordAt?, capitalized?, hu, hsmall, some?_isLower_eq_none hs, capitals?_cons hu hs]
  · -- a small letter
    rw [wordTail_eq_takeWhile (p := Char.isLower) (fun _ => joins_of_isLower) hl]
    simp [wordAt?, capitalized?, hu, some?_cons_of_pos (p := Char.isLower) hl]
  · -- a digit
    have hsmall : some? Char.isLower (c :: rest) = none := some?_cons_of_neg hl rest
    rw [wordTail_eq_takeWhile (p := Char.isDigit) (fun _ => joins_of_isDigit) hd]
    simp [wordAt?, capitalized?, capitals?, capital?, hu, hsmall,
      some?_cons_of_pos (p := Char.isDigit) hd]

theorem finds_splitWords (text : List Char) : Finds text (splitWords text) := by
  induction hn : text.length using Nat.strong_induction_on generalizing text with
  | _ n ih =>
    cases text with
    | nil => exact .done
    | cons c rest =>
      rw [List.length_cons] at hn
      cases hc : c.isAlphanum with
      | false =>
        rw [splitWords_cons_of_not hc]
        exact .skip (wordAt?_of_not hc rest) (ih rest.length (by omega) rest rfl)
      | true =>
        have hword := wordAt?_cons hc rest
        have hsplit : c :: rest =
            (c :: wordTail c rest) ++ rest.drop (wordTail c rest).length := by
          rw [List.cons_append, wordTail_append_drop]
        have hrest := ih _ (by rw [List.length_drop]; omega)
          (rest.drop (wordTail c rest).length) rfl
        rw [splitWords_cons hc, hsplit]
        rw [hsplit] at hword
        exact .found hword hrest

theorem wordAt?_eq_some {text word : List Char} (h : wordAt? text = some word) :
    ∃ c rest, c.isAlphanum = true ∧ text = c :: rest ∧ word = c :: wordTail c rest := by
  cases text with
  | nil => simp [wordAt?, capitalized?, capitals?, capital?, some?] at h
  | cons c rest =>
    cases hc : c.isAlphanum with
    | false => simp [wordAt?_of_not hc] at h
    | true =>
      rw [wordAt?_cons hc, Option.some.injEq] at h
      exact ⟨c, rest, hc, rfl, h.symm⟩

/-- The search finds the words of the cut, and no others. -/
theorem finds_iff {text : List Char} {words : List (List Char)} :
    Finds text words ↔ words = splitWords text := by
  constructor
  · intro h
    induction h with
    | done => rfl
    | @skip c rest words hword _ ih =>
      cases hc : c.isAlphanum with
      | false => rw [splitWords_cons_of_not hc, ih]
      | true => simp [wordAt?_cons hc] at hword
    | @found word rest words hword _ ih =>
      obtain ⟨c, more, hc, htext, rfl⟩ := wordAt?_eq_some hword
      rw [List.cons_append, List.cons.injEq] at htext
      have hrest : rest = more.drop (wordTail c more).length := by
        have hdrop : (wordTail c more ++ rest).drop (wordTail c more).length = rest :=
          List.drop_left
        rw [htext.2] at hdrop
        exact hdrop.symm
      rw [List.cons_append, htext.2, splitWords_cons hc, ih, ← hrest]
  · rintro rfl
    exact finds_splitWords text

example : splitWords "HTTPServer2_x".toList =
    ["HTTP".toList, "Server".toList, "2".toList, "x".toList] := by
  decide

theorem startsLower_cleaned (text : List Char) :
    startsLower (cleaned text) = startsLower text := by
  cases text with
  | nil => rfl
  | cons c rest =>
    show Char.isLower (if c.isAlphanum then c else ' ') = c.isLower
    split
    · rfl
    · next hc =>
      cases hl : c.isLower with
      | false => rfl
      | true => exact absurd (of_isLower hl).1 hc

theorem joins_cleaned (c : Char) (text : List Char) : joins c (cleaned text) = joins c text := by
  cases text with
  | nil => rfl
  | cons d rest =>
    show joins c ((if d.isAlphanum then d else ' ') :: cleaned rest) = joins c (d :: rest)
    rw [joins_cons, joins_cons, startsLower_cleaned]
    split
    · rfl
    · next hd =>
      rw [isAlphanum_eq, Bool.not_eq_true, Bool.or_eq_false_iff, Bool.or_eq_false_iff] at hd
      obtain ⟨⟨hu, hl⟩, hdigit⟩ := hd
      simp [hu, hl, hdigit]

/-- It makes no difference which characters stand between the words. -/
theorem splitWords_cleaned (name : List Char) : splitWords (cleaned name) = splitWords name := by
  induction name with
  | nil => rfl
  | cons c rest ih =>
    show splitWords ((if c.isAlphanum then c else ' ') :: cleaned rest) = splitWords (c :: rest)
    cases hc : c.isAlphanum with
    | true =>
      rw [if_pos rfl, splitWords, splitWords, if_pos hc, if_pos hc, joins_cleaned, ih]
    | false =>
      rw [if_neg Bool.false_ne_true, splitWords_cons_of_not (by decide), ih,
        splitWords_cons_of_not hc]

/-! ## Each word -/

theorem exists_of_mem_splitWords {text word : List Char} (h : word ∈ splitWords text) :
    ∃ c rest, c.isAlphanum = true ∧ word = c :: wordTail c rest := by
  have hfinds := finds_splitWords text
  generalize splitWords text = words at h hfinds
  induction hfinds with
  | done => cases h
  | skip _ _ ih => exact ih h
  | found hword _ ih =>
    rcases List.mem_cons.1 h with rfl | h
    · obtain ⟨c, rest, hc, _, hw⟩ := wordAt?_eq_some hword
      exact ⟨c, rest, hc, hw⟩
    · exact ih h

theorem ne_nil_of_mem_splitWords {text word : List Char} (h : word ∈ splitWords text) :
    word ≠ [] := by
  obtain ⟨c, rest, _, rfl⟩ := exists_of_mem_splitWords h
  exact List.cons_ne_nil _ _

/-- A word consists of letters or of digits: digits are joined to digits only. -/
theorem isAlpha_or_isDigit_of_mem_splitWords {text word : List Char}
    (h : word ∈ splitWords text) :
    (∀ c ∈ word, c.isAlpha = true) ∨ ∀ c ∈ word, c.isDigit = true := by
  obtain ⟨c, rest, hc, rfl⟩ := exists_of_mem_splitWords h
  cases hdigit : c.isDigit with
  | true =>
    refine Or.inr (List.forall_mem_cons.2 ⟨hdigit, ?_⟩)
    refine forall_wordTail (p := fun c => c.isDigit = true) ?_ hdigit rest
    intro c d rest hc hjoins
    rwa [joins_of_isDigit hc] at hjoins
  | false =>
    have halpha : c.isAlpha = true := by simpa [Char.isAlphanum, hdigit] using hc
    refine Or.inl (List.forall_mem_cons.2 ⟨halpha, ?_⟩)
    refine forall_wordTail (p := fun c => c.isAlpha = true) ?_ halpha rest
    intro c d rest hc hjoins
    have hnot : c.isDigit = false := by
      rcases Bool.or_eq_true_iff.1 hc with hu | hl
      · exact (of_isUpper hu).2.2
      · exact (of_isLower hl).2.2
    rw [joins_cons, hnot] at hjoins
    show (d.isUpper || d.isLower) = true
    cases hu : d.isUpper <;> cases hl : d.isLower <;> simp_all

/-! ## Runs of letters and digits -/

/-- The runs of letters and digits of a name that are as long as possible, in order. Where two
other characters stand beside each other, or one at an end of the name, there is an empty run. -/
def runs (name : List Char) : List (List Char) :=
  name.splitOnP fun c => !c.isAlphanum

theorem runs_cons_of_not {c : Char} (hc : c.isAlphanum = false) (rest : List Char) :
    runs (c :: rest) = [] :: runs rest := by
  rw [runs, List.splitOnP_cons_eq_if_modifyHead, hc]
  rfl

/-- A letter or digit goes on with the first run of what follows it. -/
theorem exists_runs_cons {c : Char} (hc : c.isAlphanum = true) (rest : List Char) :
    ∃ run others, runs rest = run :: others ∧ runs (c :: rest) = (c :: run) :: others := by
  obtain ⟨run, others, hruns⟩ := List.exists_cons_of_ne_nil
    (List.splitOnP_ne_nil (fun c : Char => !c.isAlphanum) rest)
  refine ⟨run, others, hruns, ?_⟩
  rw [runs, List.splitOnP_cons_eq_if_modifyHead, hc, hruns]
  rfl

theorem isAlphanum_of_mem_runs {name : List Char} :
    ∀ run ∈ runs name, ∀ c ∈ run, c.isAlphanum = true := by
  induction name with
  | nil => simp [runs]
  | cons c rest ih =>
    cases hc : c.isAlphanum with
    | false =>
      rw [runs_cons_of_not hc, List.forall_mem_cons]
      exact ⟨List.forall_mem_nil _, ih⟩
    | true =>
      obtain ⟨run, others, hrest, hruns⟩ := exists_runs_cons hc rest
      rw [hrest, List.forall_mem_cons] at ih
      rw [hruns, List.forall_mem_cons, List.forall_mem_cons]
      exact ⟨⟨hc, ih.1⟩, ih.2⟩

section Run

variable {rest run : List Char} {others : List (List Char)}

theorem startsLower_run (h : runs rest = run :: others) : startsLower run = startsLower rest := by
  cases rest with
  | nil =>
    cases h
    rfl
  | cons d rest =>
    cases hd : d.isAlphanum with
    | false =>
      rw [runs_cons_of_not hd, List.cons.injEq] at h
      rw [← h.1]
      cases hl : d.isLower with
      | false => exact hl.symm
      | true => simp [(of_isLower hl).1] at hd
    | true =>
      obtain ⟨tail, _, _, hruns⟩ := exists_runs_cons hd rest
      rw [hruns, List.cons.injEq] at h
      rw [← h.1]
      rfl

theorem joins_run (h : runs rest = run :: others) (c : Char) : joins c run = joins c rest := by
  cases rest with
  | nil =>
    cases h
    rfl
  | cons d rest =>
    cases hd : d.isAlphanum with
    | false =>
      rw [runs_cons_of_not hd, List.cons.injEq] at h
      rw [← h.1]
      cases hjoins : joins c (d :: rest) with
      | false => rfl
      | true => simp [isAlphanum_of_joins hjoins] at hd
    | true =>
      obtain ⟨tail, _, hrest, hruns⟩ := exists_runs_cons hd rest
      rw [hruns, List.cons.injEq] at h
      rw [← h.1, joins_cons, joins_cons, startsLower_run hrest]

end Run

theorem attach_append (c : Char) {words : List (List Char)} (h : words ≠ [])
    (more : List (List Char)) : attach c (words ++ more) = attach c words ++ more := by
  obtain ⟨word, words, rfl⟩ := List.exists_cons_of_ne_nil h
  rfl

/-- The words of a name are the words of its runs: none begins in one run and ends in another. -/
theorem splitWords_eq_flatMap_runs (name : List Char) :
    splitWords name = (runs name).flatMap splitWords := by
  induction name with
  | nil => rfl
  | cons c rest ih =>
    cases hc : c.isAlphanum with
    | false =>
      rw [splitWords_cons_of_not hc, runs_cons_of_not hc, List.flatMap_cons, ih]
      rfl
    | true =>
      obtain ⟨run, others, hrest, hruns⟩ := exists_runs_cons hc rest
      rw [hrest, List.flatMap_cons] at ih
      rw [hruns, List.flatMap_cons, splitWords, splitWords, if_pos hc, if_pos hc,
        joins_run hrest, ih]
      split
      · next hjoins =>
        refine attach_append c ?_ _
        cases run with
        | nil =>
          rw [← joins_run hrest] at hjoins
          cases hjoins
        | cons d run =>
          rw [← joins_run hrest] at hjoins
          rw [splitWords_cons (isAlphanum_of_joins hjoins)]
          exact List.cons_ne_nil _ _
      · rfl

/-- The words of a run make it up. -/
theorem flatten_splitWords_of_mem_runs {name run : List Char} (h : run ∈ runs name) :
    (splitWords run).flatten = run := by
  rw [flatten_splitWords, List.filter_eq_self]
  exact isAlphanum_of_mem_runs run h

/-! ## Names -/

theorem lower_ofList {cs : List Char} (h : ∀ c ∈ cs, c.isAlphanum = true) :
    lower (String.ofList cs) = String.ofList (cs.map Char.toLower) := by
  have hlt : ∀ c ∈ cs, c.toNat < 128 := fun c hc =>
    forall_isAlphanum (p := fun c => c.toNat < 128) (by decide) (h c hc)
  rw [lower, String.toList_ofList, lowerAfter_of_forall_lt hlt]

theorem toList_join_ofList (words : List (List Char)) :
    (String.join (words.map String.ofList)).toList = words.flatten := by
  rw [String.toList_join, List.flatMap_map, List.flatMap_def]
  simp

/-- Capitals and small letters again. -/
theorem map_toLower_flatMap_capitalFirst {words : List (List Char)}
    (h : ∀ word ∈ words, ∀ c ∈ word, isWordSign c = true) :
    (words.flatMap capitalFirst).map Char.toLower = words.flatten := by
  have hback : ∀ c, isWordSign c = true → c.toUpper.toLower = c ∧ c.toLower = c := by
    intro c hc
    refine forall_isAlphanum
      (p := fun c => isWordSign c = true → c.toUpper.toLower = c ∧ c.toLower = c) ?_
      (isAlphanum_of_isWordSign hc) hc
    decide
  induction words with
  | nil => rfl
  | cons word words ih =>
    rw [List.forall_mem_cons] at h
    rw [List.flatMap_cons, List.map_append, ih h.2, List.flatten_cons]
    congr 1
    cases word with
    | nil => rfl
    | cons c rest =>
      have hword := List.forall_mem_cons.1 h.1
      rw [capitalFirst, List.map_cons, (hback c hword.1).1]
      congr 1
      exact (List.map_congr_left fun d hd => (hback d (hword.2 d hd)).2).trans (List.map_id _)

/-- The class name of a table in small letters, from the letters and digits of its name in small
letters. -/
def smallClassName : List Char → String
  | [] => "table"
  | c :: rest => String.ofList (if c.isDigit then 't' :: c :: rest else c :: rest)

theorem lower_className (name : String) :
    lower (className name false) = smallClassName (wordsOf name.toList).flatten := by
  have hsigns : ∀ word ∈ wordsOf name.toList, ∀ c ∈ word, isWordSign c = true :=
    fun _ hword => isWordSign_of_mem_wordsOf hword
  have hall : ∀ c ∈ (wordsOf name.toList).flatMap capitalFirst, c.isAlphanum = true :=
    isAlphanum_of_mem_capitals name false
  have hchosen : chosenWords name false = wordsOf name.toList := rfl
  rw [Naming.className_eq, hchosen, ← map_toLower_flatMap_capitalFirst hsigns]
  cases hcapitals : (wordsOf name.toList).flatMap capitalFirst with
  | nil => decide
  | cons c rest =>
    rw [hcapitals] at hall
    have hdigit := isDigit_toLower (hall c (List.mem_cons_self ..))
    rw [List.map_cons, smallClassName, hdigit]
    dsimp only
    split
    · rw [lower_ofList (List.forall_mem_cons.2 ⟨rfl, hall⟩)]
      rfl
    · rw [lower_ofList hall]
      rfl

/-- The words are the pieces of the name in small letters. -/
theorem words_eq_map_lower (name : String) :
    words name = (splitWords name.toList).map fun word => lower (String.ofList word) := by
  rw [words, wordsOf, List.map_map]
  refine List.map_congr_left fun word hword => (lower_ofList fun c hc => ?_).symm
  have hmem : c ∈ (splitWords name.toList).flatten := List.mem_flatten.2 ⟨word, hword, hc⟩
  rw [flatten_splitWords, List.mem_filter] at hmem
  exact hmem.2

theorem exists_of_mem_words {name word : String} (h : word ∈ words name) :
    ∃ spelled ∈ splitWords name.toList, word.toList = spelled.map Char.toLower := by
  obtain ⟨_, hmem, rfl⟩ := List.mem_map.1 h
  obtain ⟨spelled, hspelled, rfl⟩ := List.mem_map.1 hmem
  exact ⟨spelled, hspelled, String.toList_ofList⟩

/-- What the words of a name are, and the class name that they make. -/
structure WordsPartition (name : String) : Prop where
  /-- The words are what the search for the pattern finds, in small letters. -/
  found : ∃ found, (∀ other, Finds (cleaned name.toList) other ↔ other = found) ∧
    words name = found.map fun word => lower (String.ofList word)
  /-- All together, they are the letters and digits of the name in small letters. -/
  join_eq : (String.join (words name)).toList =
    (name.toList.filter Char.isAlphanum).map Char.toLower
  /-- None is empty. -/
  ne_empty : ∀ word ∈ words name, word ≠ ""
  /-- Each consists of small letters or of digits. -/
  of_one_kind : ∀ word ∈ words name,
    (∀ c ∈ word.toList, c.isLower = true) ∨ ∀ c ∈ word.toList, c.isDigit = true
  /-- They fall into groups that make up the runs of letters and digits of the name one by one. -/
  by_runs : ∃ groups : List (List String), groups.flatten = words name ∧
    groups.map (fun group => (String.join group).toList) =
      (runs name.toList).map fun run => run.map Char.toLower
  /-- The class name is made of them: in small letters it is the letters and digits of the name,
  with a `t` before a digit, or `table` if there are none. -/
  className_eq : lower (className name false) = smallClassName (String.join (words name)).toList

theorem words_partition (name : String) : WordsPartition name := by
  have hjoin : (String.join (words name)).toList = (wordsOf name.toList).flatten :=
    toList_join_ofList _
  refine { found := ?_, join_eq := ?_, ne_empty := ?_, of_one_kind := ?_, by_runs := ?_,
           className_eq := ?_ }
  · -- found
    refine ⟨splitWords name.toList, fun other => ?_, words_eq_map_lower name⟩
    rw [finds_iff, splitWords_cleaned]
  · -- join_eq
    rw [hjoin, wordsOf, ← List.map_flatten, flatten_splitWords]
  · -- ne_empty
    rintro word hword rfl
    obtain ⟨spelled, hmem, he⟩ := exists_of_mem_words hword
    exact ne_nil_of_mem_splitWords hmem (List.map_eq_nil_iff.1 he.symm)
  · -- of_one_kind
    intro word hword
    obtain ⟨spelled, hmem, he⟩ := exists_of_mem_words hword
    rw [he, List.forall_mem_map, List.forall_mem_map]
    rcases isAlpha_or_isDigit_of_mem_splitWords hmem with h | h
    · exact Or.inl fun c hc => isLower_toLower (h c hc)
    · refine Or.inr fun c hc => ?_
      have hdigit := h c hc
      rwa [isDigit_toLower (of_isDigit hdigit).1]
  · -- by_runs
    refine ⟨(runs name.toList).map fun run => (wordsOf run).map String.ofList, ?_, ?_⟩
    · rw [words, wordsOf, splitWords_eq_flatMap_runs, List.map_flatMap, List.map_flatMap,
        List.flatMap_def]
      rfl
    · rw [List.map_map]
      refine List.map_congr_left fun run hrun => ?_
      show (String.join ((wordsOf run).map String.ofList)).toList = _
      rw [toList_join_ofList, wordsOf, ← List.map_flatten, flatten_splitWords_of_mem_runs hrun]
  · -- className_eq
    rw [hjoin, lower_className]

end SchemaCodegen.Naming
