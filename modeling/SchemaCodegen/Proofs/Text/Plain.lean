import Mathlib.Tactic.SplitIfs
import SchemaCodegen.Text.IdentifierCharacter
import SchemaCodegen.Text.Lines
import SchemaCodegen.Text.Literal
import SchemaCodegen.Text.WordCharacter

/-!
# Proofs: texts of one line and plain texts

A text of one line holds no line break. A plain text holds none either, and no sign that a reader of
code takes for a part of its structure: no quote, no bracket, no comma, no mark of a comment. Words
and identifiers of any script are plain, whatever is quoted stays in its line, and both kinds of
texts stay what they are when they are put together.
-/

namespace SchemaCodegen.Text

/-! ## Texts of a class of characters -/

/-- A text whose characters all belong to a class. -/
def IsMadeOf (p : Char → Bool) (text : String) : Prop :=
  ∀ c ∈ text.toList, p c = true

section MadeOf

variable {p q : Char → Bool}

instance (text : String) : Decidable (IsMadeOf p text) :=
  decidable_of_iff (text.toList.all p = true) List.all_eq_true

theorem isMadeOf_empty : IsMadeOf p "" := by
  simp [IsMadeOf]

theorem isMadeOf_ofList {cs : List Char} (h : ∀ c ∈ cs, p c = true) :
    IsMadeOf p (String.ofList cs) := by
  simpa [IsMadeOf] using h

/-- A text whose characters are checked one by one. -/
theorem isMadeOf_of_all {cs : List Char} (h : cs.all p = true) : IsMadeOf p (String.ofList cs) :=
  isMadeOf_ofList (List.all_eq_true.1 h)

theorem IsMadeOf.append {s t : String} (hs : IsMadeOf p s) (ht : IsMadeOf p t) :
    IsMadeOf p (s ++ t) := by
  intro c hc
  rw [String.toList_append, List.mem_append] at hc
  exact hc.elim (hs c) (ht c)

theorem IsMadeOf.push {s : String} {c : Char} (hs : IsMadeOf p s) (hc : p c = true) :
    IsMadeOf p (s.push c) := by
  intro d hd
  rw [String.toList_push, List.mem_append, List.mem_singleton] at hd
  exact hd.elim (hs d) fun e => e ▸ hc

theorem IsMadeOf.intercalate {separator : String} {texts : List String}
    (hs : IsMadeOf p separator) (ht : ∀ text ∈ texts, IsMadeOf p text) :
    IsMadeOf p (separator.intercalate texts) := by
  induction texts with
  | nil => exact isMadeOf_empty
  | cons text texts ih =>
    rw [List.forall_mem_cons] at ht
    cases texts with
    | nil => simpa using ht.1
    | cons next texts =>
      rw [String.intercalate_cons_cons]
      exact (ht.1.append hs).append (ih ht.2)

theorem IsMadeOf.mono {text : String} (h : IsMadeOf p text) (hpq : ∀ c, p c = true → q c = true) :
    IsMadeOf q text :=
  fun c hc => hpq c (h c hc)

end MadeOf

/-! ## Lines -/

/-- Whether a character stays in its line, in a file and in the generated language. -/
def isLineChar (c : Char) : Bool :=
  c != '\n' && c != '\r'

/-- A text that does not leave its line. -/
abbrev IsLine (text : String) : Prop :=
  IsMadeOf isLineChar text

theorem IsLine.not_mem_lineFeed {text : String} (h : IsLine text) : '\n' ∉ text.toList :=
  fun hmem => absurd (h _ hmem) (by decide)

theorem IsLine.not_mem_return {text : String} (h : IsLine text) : '\r' ∉ text.toList :=
  fun hmem => absurd (h _ hmem) (by decide)

/-- An escaped character stays in its line. -/
theorem isLineChar_escapeChar (c : Char) : ∀ d ∈ escapeChar c, isLineChar d = true := by
  rw [← List.all_eq_true, escapeChar]
  split_ifs with hslash hquote hfeed hreturn htab
  · rfl
  · rfl
  · rfl
  · rfl
  · rfl
  · simp [isLineChar, hfeed, hreturn]

/-- A quoted text stays in its line, whatever the text is. -/
theorem isLine_quote (text : String) : IsLine (quote text) := by
  have hmark : IsLine "'" := isMadeOf_of_all rfl
  have hinside : IsLine (escape text) := by
    refine isMadeOf_ofList fun c hc => ?_
    obtain ⟨d, _, hd⟩ := List.mem_flatMap.1 hc
    exact isLineChar_escapeChar d c hd
  exact (hmark.append hinside).append hmark

/-! ## Plain texts -/

/-- The signs that give code its structure: line breaks, the marks of literals and comments,
brackets and the comma. -/
def signs : List Char :=
  ['\n', '\r', '\'', '"', '\\', '#', '(', ')', '[', ']', '\x7b', '\x7d', ',']

/-- Whether a character is none of the signs that give code its structure. -/
def isPlainChar (c : Char) : Bool :=
  !signs.contains c

/-- A text without signs that give code its structure. -/
abbrev IsPlain (text : String) : Prop :=
  IsMadeOf isPlainChar text

/-- A plain character is none of the signs. -/
theorem ne_of_isPlainChar {c s : Char} (h : isPlainChar c = true) (hs : s ∈ signs) : c ≠ s := by
  rintro rfl
  rw [isPlainChar, List.contains_iff_mem.2 hs] at h
  cases h

/-- A character is plain if it belongs to a class without signs. -/
theorem isPlainChar_of_class {p : Char → Bool} (h : signs.any p = false) {c : Char}
    (hc : p c = true) : isPlainChar c = true := by
  rw [isPlainChar, Bool.not_eq_true', ← Bool.not_eq_true, List.contains_iff_mem]
  intro hmem
  exact absurd hc (List.any_eq_false.1 h c hmem)

theorem isPlainChar_of_isDigit {c : Char} (h : c.isDigit = true) : isPlainChar c = true :=
  isPlainChar_of_class rfl h

/-- A plain text stays in its line. -/
theorem IsMadeOf.isLine {text : String} (h : IsPlain text) : IsLine text := by
  refine h.mono fun c hc => ?_
  have hfeed := ne_of_isPlainChar hc (s := '\n') (by decide)
  have hreturn := ne_of_isPlainChar hc (s := '\r') (by decide)
  simp [isLineChar, hfeed, hreturn]

theorem isPlain_toString_int (n : Int) : IsPlain (toString n) := by
  have hnat : ∀ m : Nat, IsPlain m.repr := by
    intro m
    refine isMadeOf_ofList fun c hc => isPlainChar_of_isDigit ?_
    exact Nat.isDigit_of_mem_toDigits (by decide) (by decide) hc
  cases n with
  | ofNat m => exact hnat m
  | negSucc m => exact IsMadeOf.append (s := "-") (isMadeOf_of_all rfl) (hnat (m + 1))

/-! ## Names -/

/-- Whether a character can belong to a name of generated code. -/
def isNameChar (c : Char) : Bool :=
  isIdentifierStart c || isIdentifierContinue c || isWordChar c

/-- A text made of the characters of names. -/
abbrev IsName (text : String) : Prop :=
  IsMadeOf isNameChar text

theorem isPlainChar_of_isNameChar {c : Char} (h : isNameChar c = true) : isPlainChar c = true :=
  isPlainChar_of_class (by decide +kernel) h

theorem isPlain_of_isName {name : String} (h : IsName name) : IsPlain name :=
  h.mono fun _ => isPlainChar_of_isNameChar

end SchemaCodegen.Text
