import Mathlib.Data.List.Forall2
import SchemaCodegen.Proofs.Code.Scan
import SchemaCodegen.Proofs.Naming.Plain

/-!
# Proofs: the names that code uses

A reader of code meets names outside literals: runs of the characters of names, as long as they can
be. Of each it notes whether a dot stands directly before it, which makes it a member of what comes
before, and whether an equals sign follows directly between brackets, which makes it the keyword of
an argument. What an expression uses is read off its text and is what its tree says.
-/

namespace SchemaCodegen.Code

open SchemaCodegen.Text

/-! ## The reader -/

/-- A name that code uses. -/
structure Use where
  /-- The name. -/
  name : List Char
  /-- Whether it stands directly after a dot. -/
  isMember : Bool := false
  /-- Whether an equals sign follows directly between brackets. -/
  isArgument : Bool := false
  deriving DecidableEq, Repr

/-- The name as a text. -/
def Use.text (use : Use) : String :=
  String.ofList use.name

/-- Whether a name is a number: it begins with a digit. -/
def Use.isNumber (use : Use) : Bool :=
  use.name.head?.any Char.isDigit

/-- How far a reader of names is. -/
structure Reader where
  /-- Where it stands with respect to literals and brackets. -/
  scan : Scan := {}
  /-- What it has read of the name at this place. -/
  name : List Char := []
  /-- Whether a dot stood directly before it. -/
  afterDot : Bool := false

namespace Reader

/-- Whether the character goes on with a name or begins one. -/
def goesOn (r : Reader) (c : Char) : Bool :=
  decide (r.scan.place = .outside) && isNameChar c

/-- The name that ends before the given text, if there is one. -/
def uses (r : Reader) (rest : List Char) : List Use :=
  if r.name = [] then []
  else [⟨r.name, r.afterDot, rest.head? == some '=' && !r.scan.awaited.isEmpty⟩]

/-- The reader after a character that belongs to no name. -/
def after (r : Reader) (c : Char) : Reader :=
  { scan := (r.scan.step c).getD r.scan
    afterDot := decide (r.scan.place = .outside) && c == '.' }

/-- The names that are read in a text. -/
def read (r : Reader) : List Char → List Use
  | [] => r.uses []
  | c :: rest =>
    if r.goesOn c then read { r with name := r.name ++ [c] } rest
    else r.uses (c :: rest) ++ read (r.after c) rest

/-- A reader outside literals, between the given brackets, at the beginning of whatever comes. -/
def outside (awaited : List Char) : Reader :=
  { scan := ⟨.outside, awaited⟩ }

end Reader

/-- The names that a text uses. -/
def usesOf (cs : List Char) : List Use :=
  Reader.read {} cs

example : usesOf "at: M[a.b] = f('no, \\'x\\'', n=1)".toList =
    [⟨['a', 't'], false, false⟩, ⟨['M'], false, false⟩, ⟨['a'], false, false⟩,
      ⟨['b'], true, false⟩, ⟨['f'], false, false⟩, ⟨['n'], false, true⟩,
      ⟨['1'], false, false⟩] := by
  decide +kernel

/-! ## Ends of names -/

/-- Whether a character ends a name and does not make it a keyword. -/
def isBreak (c : Char) : Bool :=
  !isNameChar c && c != '='

/-- A text that does not run into a name that stands before it. -/
def Breaks (rest : List Char) : Prop :=
  ∀ c ∈ rest.head?, isBreak c = true

theorem breaks_cons {c : Char} (h : isBreak c = true) (rest : List Char) : Breaks (c :: rest) := by
  intro d hd
  rwa [← Option.some.inj hd]

/-- Whether a character stands between names and changes nothing for a reader. -/
def isGapChar (c : Char) : Bool :=
  [' ', ',', ':', '=', '\n', '-'].contains c

namespace Reader

theorem goesOn_eq_false {c : Char} (h : isNameChar c = false) (r : Reader) :
    r.goesOn c = false := by
  unfold goesOn
  rw [h, Bool.and_false]

/-- Before a text that breaks, a name is over, and the text is read as if it stood alone. -/
theorem read_of_breaks {rest : List Char} (h : Breaks rest) (awaited name : List Char)
    (afterDot : Bool) :
    read ⟨⟨.outside, awaited⟩, name, afterDot⟩ rest =
      (if name = [] then [] else [⟨name, afterDot, false⟩]) ++ read (outside awaited) rest := by
  cases rest with
  | nil => simp [read, uses, outside]
  | cons c rest =>
    have hbreak : isBreak c = true := h c rfl
    unfold isBreak at hbreak
    rw [Bool.and_eq_true, Bool.not_eq_true', bne_iff_ne] at hbreak
    obtain ⟨hname, hne⟩ := hbreak
    rw [read, read, goesOn_eq_false hname, goesOn_eq_false hname]
    simp [uses, after, outside, beq_eq_false_iff_ne.2 hne]

/-- Characters of names are added to the name that is being read. -/
theorem read_name {cs : List Char} (h : ∀ c ∈ cs, isNameChar c = true) (awaited name : List Char)
    (afterDot : Bool) (rest : List Char) :
    read ⟨⟨.outside, awaited⟩, name, afterDot⟩ (cs ++ rest) =
      read ⟨⟨.outside, awaited⟩, name ++ cs, afterDot⟩ rest := by
  induction cs generalizing name with
  | nil => rw [List.nil_append, List.append_nil]
  | cons c cs ih =>
    rw [List.forall_mem_cons] at h
    have hgoes : goesOn ⟨⟨.outside, awaited⟩, name, afterDot⟩ c = true := by
      unfold goesOn
      rw [h.1]
      rfl
    rw [List.cons_append, read, if_pos hgoes, ih h.2, List.append_assoc, List.singleton_append]

/-- A sign between names changes nothing but the brackets that are awaited. -/
theorem read_sign {c : Char} (hname : isNameChar c = false) (hdot : c ≠ '.')
    {awaited next : List Char} (hstep : Scan.step ⟨.outside, awaited⟩ c = some ⟨.outside, next⟩)
    (rest : List Char) : read (outside awaited) (c :: rest) = read (outside next) rest := by
  have hafter : after (outside awaited) c = outside next := by
    unfold after outside
    rw [hstep]
    simp [hdot]
  rw [read, goesOn_eq_false hname, hafter]
  rfl

theorem read_gap {gap : List Char} (h : ∀ c ∈ gap, isGapChar c = true) (awaited rest : List Char) :
    read (outside awaited) (gap ++ rest) = read (outside awaited) rest := by
  have hchars : ∀ c, isGapChar c = true → isNameChar c = false ∧ isOrdinary c = true ∧ c ≠ '.' := by
    intro c hc
    unfold isGapChar at hc
    have hname : [' ', ',', ':', '=', '\n', '-'].any isNameChar = false := by decide +kernel
    have hordinary : [' ', ',', ':', '=', '\n', '-'].all isOrdinary = true := rfl
    rw [List.contains_iff_mem] at hc
    refine ⟨Bool.eq_false_iff.2 (List.any_eq_false.1 hname c hc),
      List.all_eq_true.1 hordinary c hc, ?_⟩
    rintro rfl
    simp at hc
  induction gap with
  | nil => rfl
  | cons c gap ih =>
    rw [List.forall_mem_cons] at h
    obtain ⟨hname, hordinary, hdot⟩ := hchars c h.1
    rw [List.cons_append, read_sign hname hdot (Scan.step_of_isOrdinary hordinary awaited), ih h.2]

/-- Inside a literal no name is read. -/
theorem read_escapeChar (c : Char) (awaited rest : List Char) :
    read { scan := ⟨.inside, awaited⟩ } (escapeChar c ++ rest) =
      read { scan := ⟨.inside, awaited⟩ } rest := by
  unfold escapeChar
  split_ifs with hslash hquote hfeed hreturn htab
  · rfl
  · rfl
  · rfl
  · rfl
  · rfl
  · simp [read, goesOn, uses, after, Scan.step, hslash, hquote, hfeed]

/-- A quoted text uses no name, whatever the text is. -/
theorem read_quote (text : String) (awaited rest : List Char) :
    read (outside awaited) ((quote text).toList ++ rest) = read (outside awaited) rest := by
  have hescape : ∀ cs : List Char,
      read { scan := ⟨.inside, awaited⟩ } (cs.flatMap escapeChar ++ '\'' :: rest) =
        read { scan := ⟨.inside, awaited⟩ } ('\'' :: rest) := by
    intro cs
    induction cs with
    | nil => rfl
    | cons c cs ih => rw [List.flatMap_cons, List.append_assoc, read_escapeChar, ih]
  have hmark : isNameChar '\'' = false := by decide +kernel
  rw [toList_quote, List.cons_append, List.append_assoc, read, goesOn_eq_false hmark]
  show read { scan := ⟨.inside, awaited⟩ } (text.toList.flatMap escapeChar ++ '\'' :: rest) = _
  rw [hescape, read, if_neg (by simp [goesOn])]
  rfl

end Reader

/-! ## Texts and what they use -/

/-- A text that, between the given brackets and before anything that does not run into it, is read
as the given uses. -/
def Reads (awaited : List Char) (text : String) (uses : List Use) : Prop :=
  ∀ rest, Breaks rest → Reader.read (Reader.outside awaited) (text.toList ++ rest) =
    uses ++ Reader.read (Reader.outside awaited) rest

/-- A text of characters that stand between names. -/
def IsGap (text : String) : Prop :=
  text.toList.all isGapChar = true

/-- What a name by itself is read as. -/
def nameUses (name : String) : List Use :=
  if name = "" then [] else [⟨name.toList, false, false⟩]

theorem Breaks.append {front rest : List Char} (hfront : Breaks front) (hrest : Breaks rest) :
    Breaks (front ++ rest) := by
  cases front with
  | nil => exact hrest
  | cons c front => exact breaks_cons (hfront c rfl) _

/-- How a text begins decides whether it runs into a name. -/
theorem Breaks.left {s : String} (h : Breaks s.toList) (hne : s ≠ "") (t : String) :
    Breaks (s ++ t).toList := by
  rw [String.toList_append]
  cases hs : s.toList with
  | nil => exact absurd (String.toList_eq_nil_iff.1 hs) hne
  | cons c cs => exact breaks_cons (h c (by rw [hs]; rfl)) _

section Reads

variable {awaited : List Char} {s t : String} {us vs : List Use}

theorem reads_name {name : String} (h : IsName name) : Reads awaited name (nameUses name) := by
  intro rest hrest
  show Reader.read ⟨⟨.outside, awaited⟩, [], false⟩ (name.toList ++ rest) = _
  rw [Reader.read_name h, List.nil_append, Reader.read_of_breaks hrest]
  unfold nameUses
  by_cases hempty : name = ""
  · subst hempty
    rfl
  · rw [if_neg hempty, if_neg (by simpa using hempty)]

/-- What a text is read as is what it uses. -/
theorem usesOf_of_reads (h : Reads [] s us) : usesOf s.toList = us := by
  have hread := h [] (by simp [Breaks])
  rw [List.append_nil] at hread
  show Reader.read (Reader.outside []) _ = _
  rw [hread]
  simp [Reader.read, Reader.uses, Reader.outside]

theorem reads_gap (h : IsGap t) : Reads awaited t [] :=
  fun rest _ => Reader.read_gap (List.all_eq_true.1 h) awaited rest

theorem reads_quote (text : String) : Reads awaited (quote text) [] :=
  fun rest _ => Reader.read_quote text awaited rest

theorem Reads.append (hs : Reads awaited s us) (ht : Reads awaited t vs)
    (hbreak : Breaks t.toList) :
    Reads awaited (s ++ t) (us ++ vs) := by
  intro rest hrest
  rw [String.toList_append, List.append_assoc, hs _ (hbreak.append hrest), ht rest hrest,
    List.append_assoc]

/-- A gap and a literal can stand before anything. -/
theorem Reads.gap_append {gap : String} (ht : Reads awaited t us) (h : IsGap gap) :
    Reads awaited (gap ++ t) us := by
  intro rest hrest
  rw [String.toList_append, List.append_assoc, Reader.read_gap (List.all_eq_true.1 h),
    ht rest hrest]

theorem Reads.quote_append (text : String) (ht : Reads awaited t us) :
    Reads awaited (quote text ++ t) us := by
  intro rest hrest
  rw [String.toList_append, List.append_assoc, Reader.read_quote, ht rest hrest]

theorem Reads.bracket {o c : Char} (ht : Reads (c :: awaited) t us)
    (ho : isNameChar o = false ∧ o ≠ '.') (hc : isBreak c = true ∧ c ≠ '.')
    (hopen : Scan.step ⟨.outside, awaited⟩ o = some ⟨.outside, c :: awaited⟩)
    (hclose : Scan.step ⟨.outside, c :: awaited⟩ c = some ⟨.outside, awaited⟩) :
    Reads awaited (String.ofList [o] ++ t ++ String.ofList [c]) us := by
  intro rest hrest
  have hname : isNameChar c = false := by
    have hbreak := hc.1
    unfold isBreak at hbreak
    rw [Bool.and_eq_true, Bool.not_eq_true'] at hbreak
    exact hbreak.1
  have he : (String.ofList [o] ++ t ++ String.ofList [c]).toList ++ rest =
      o :: (t.toList ++ c :: rest) := by
    simp
  rw [he, Reader.read_sign ho.1 ho.2 hopen, ht _ (breaks_cons hc.1 rest),
    Reader.read_sign hname hc.2 hclose]

theorem Reads.round (ht : Reads (')' :: awaited) t us) : Reads awaited ("(" ++ t ++ ")") us :=
  ht.bracket (o := '(') (c := ')') (by decide +kernel) (by decide +kernel) rfl rfl

theorem Reads.square (ht : Reads (']' :: awaited) t us) : Reads awaited ("[" ++ t ++ "]") us :=
  ht.bracket (o := '[') (c := ']') (by decide +kernel) (by decide +kernel) rfl rfl

theorem Reads.curly (ht : Reads ('\x7d' :: awaited) t us) :
    Reads awaited ("\x7b" ++ t ++ "\x7d") us :=
  ht.bracket (o := '\x7b') (c := '\x7d') (by decide +kernel) (by decide +kernel) rfl rfl

/-- Texts with a gap between them use what they use one after another. -/
theorem Reads.intercalate {gap : String} {c : Char} {cs : List Char} (hgap : IsGap gap)
    (he : gap.toList = c :: cs) (hc : isBreak c = true) {texts : List String}
    {uses : List (List Use)} (h : List.Forall₂ (Reads awaited) texts uses) :
    Reads awaited (gap.intercalate texts) uses.flatten := by
  induction h with
  | nil => exact fun rest _ => rfl
  | cons hfirst htail ih =>
    cases htail with
    | nil => simpa using hfirst
    | cons hnext hrest =>
      rw [String.intercalate_cons_cons, String.append_assoc]
      refine hfirst.append (ih.gap_append hgap) ?_
      rw [String.toList_append, he]
      exact breaks_cons hc _

/-- Texts that are read one by one. -/
theorem forall₂_reads {α : Type} {f : α → String} {g : α → List Use} {items : List α}
    (h : ∀ item ∈ items, Reads awaited (f item) (g item)) :
    List.Forall₂ (Reads awaited) (items.map f) (items.map g) := by
  rw [List.forall₂_map_left_iff, List.forall₂_map_right_iff, List.forall₂_same]
  exact h

end Reads

/-! ## Expressions -/

/-- What a symbol is read as: its name, or a module and a member of it. -/
def Symbol.uses (symbol : Symbol) : List Use :=
  match symbol.home with
  | .memberOf module => [⟨module.toList, false, false⟩, ⟨symbol.name.toList, true, false⟩]
  | _ => [⟨symbol.name.toList, false, false⟩]

namespace Expr

mutual

/-- What an expression uses, in the order of its writing. -/
def uses : Expr → List Use
  | .symbol s => s.uses
  | .literal _ => []
  | .number value => nameUses (toString value.natAbs)
  | .truth value => nameUses (truthName value)
  | .call callee args => callee.uses ++ usesOfAll args
  | .keyword name value => ⟨name.toList, false, true⟩ :: uses value
  | .index head item => head.uses ++ uses item
  | .list items => usesOfAll items
  | .tuple items => usesOfAll items
  | .dict _ => []

/-- What several expressions use. -/
def usesOfAll : List Expr → List Use
  | [] => []
  | e :: es => uses e ++ usesOfAll es

end

theorem usesOfAll_eq (es : List Expr) : usesOfAll es = (es.map uses).flatten := by
  induction es with
  | nil => rfl
  | cons e es ih => rw [usesOfAll, ih, List.map_cons, List.flatten_cons]

end Expr

section Expressions

variable {awaited : List Char}

theorem reads_symbol {symbol : Symbol} (h : symbol.IsWord) :
    Reads awaited symbol.render symbol.uses := by
  obtain ⟨home, name⟩ := symbol
  have hname : name ≠ "" := h.name_ne
  have hnameUses : nameUses name = [⟨name.toList, false, false⟩] := if_neg hname
  have halone : Reads awaited name [⟨name.toList, false, false⟩] := hnameUses ▸ reads_name h.name
  cases home with
  | builtin => exact halone
  | importedFrom module => exact halone
  | memberOf module =>
    intro rest hrest
    have hmodule : module ≠ "" := h.whole_ne module rfl
    have hdot : isNameChar '.' = false := by decide +kernel
    have hwritten : (Symbol.render ⟨.memberOf module, name⟩).toList ++ rest =
        module.toList ++ '.' :: (name.toList ++ rest) := by
      simp [Symbol.render]
    have hstop : Reader.read ⟨⟨.outside, awaited⟩, module.toList, false⟩
          ('.' :: (name.toList ++ rest)) =
        ⟨module.toList, false, false⟩ ::
          Reader.read ⟨⟨.outside, awaited⟩, [], true⟩ (name.toList ++ rest) := by
      rw [Reader.read, Reader.goesOn_eq_false hdot]
      simp [Reader.uses, Reader.after, Scan.step, isForeign, isClosing, closing?, hmodule]
    show Reader.read ⟨⟨.outside, awaited⟩, [], false⟩ _ = _
    rw [hwritten, Reader.read_name (h.whole module rfl), List.nil_append, hstop,
      Reader.read_name h.name, List.nil_append, Reader.read_of_breaks hrest,
      if_neg (by simpa using hname)]
    rfl

theorem reads_number (value : Int) :
    Reads awaited (toString value) (nameUses (toString value.natAbs)) := by
  have hdigits : ∀ n : Nat, IsName n.repr := by
    intro n
    refine isMadeOf_ofList fun c hc => Naming.isNameChar_of_isAlphanum ?_
    have hdigit : c.isDigit = true := Nat.isDigit_of_mem_toDigits (by decide) (by decide) hc
    unfold Char.isAlphanum
    rw [hdigit, Bool.or_true]
  cases value with
  | ofNat n => exact reads_name (hdigits n)
  | negSucc n => exact (reads_name (hdigits (n + 1))).gap_append (show IsGap "-" from rfl)

/-- Items with commas between them use what they use one after another. -/
theorem Reads.commaSeparated {α : Type} {f : α → String} {g : α → List Use} {items : List α}
    (h : ∀ item ∈ items, Reads awaited (f item) (g item)) :
    Reads awaited (commaSeparated (items.map f)) (items.map g).flatten :=
  Reads.intercalate (c := ',') (show IsGap ", " from rfl) rfl (by decide +kernel) (forall₂_reads h)

theorem Reads.tupleBody {es : List Expr} (h : ∀ e ∈ es, Reads awaited e.render e.uses) :
    Reads awaited (Expr.tupleBody (es.map Expr.render)) (es.map Expr.uses).flatten := by
  match es with
  | [] => exact reads_gap (show IsGap "" from rfl)
  | [e] =>
    have hcomma : Reads awaited "," [] := reads_gap (show IsGap "," from rfl)
    have hitem := (List.forall_mem_singleton.1 h).append hcomma (breaks_cons (by decide +kernel) [])
    simpa [Expr.tupleBody] using hitem
  | a :: b :: rest =>
    have hall : Reads awaited (Text.commaSeparated ((a :: b :: rest).map Expr.render))
        ((a :: b :: rest).map Expr.uses).flatten := Reads.commaSeparated h
    exact hall

/-- An argument given by name uses the name as a keyword, and what its value uses. -/
theorem Reads.keyword {name : String} {text : String} {us : List Use} (hne : name ≠ "")
    (h : IsName name) (hawaited : awaited ≠ []) (htext : Reads awaited text us) :
    Reads awaited (name ++ "=" ++ text) (⟨name.toList, false, true⟩ :: us) := by
  intro rest hrest
  have hequals : isNameChar '=' = false := by decide +kernel
  have hwritten : (name ++ "=" ++ text).toList ++ rest =
      name.toList ++ '=' :: (text.toList ++ rest) := by
    simp
  have hstop : Reader.read ⟨⟨.outside, awaited⟩, name.toList, false⟩
        ('=' :: (text.toList ++ rest)) =
      ⟨name.toList, false, true⟩ ::
        Reader.read (Reader.outside awaited) (text.toList ++ rest) := by
    rw [Reader.read, Reader.goesOn_eq_false hequals]
    simp [Reader.uses, Reader.after, Reader.outside, Scan.step, isForeign, isClosing, closing?,
      hne, hawaited]
  show Reader.read ⟨⟨.outside, awaited⟩, [], false⟩ _ = _
  rw [hwritten, Reader.read_name h, List.nil_append, hstop, htext rest hrest]
  rfl

/-- An expression is read as its tree says. -/
theorem reads_expr {e : Expr} (h : e.UsesOnly Symbol.IsWord (fun name => name ≠ "" ∧ IsName name))
    (hawaited : awaited = [] → e.isKeyword = false) : Reads awaited e.render e.uses := by
  have hround : Breaks "(".toList := breaks_cons (by decide +kernel) []
  have hsquare : Breaks "[".toList := breaks_cons (by decide +kernel) []
  induction h generalizing awaited with
  | symbol h =>
    rw [Expr.render, Expr.uses]
    exact reads_symbol h
  | literal =>
    rw [Expr.render, Expr.uses]
    exact reads_quote _
  | number =>
    rw [Expr.render, Expr.uses]
    exact reads_number _
  | @truth value =>
    rw [Expr.render, Expr.uses]
    exact reads_name (by cases value <;> decide)
  | @call callee args h _ ih =>
    have hargs : Reads (')' :: awaited) (Text.commaSeparated (args.map Expr.render))
        (args.map Expr.uses).flatten :=
      Reads.commaSeparated fun e he => ih e he (by simp)
    rw [Expr.render, Expr.uses, Expr.renderAll_eq_map, Expr.usesOfAll_eq]
    have hcall := (reads_symbol h).append hargs.round
      ((hround.left (by decide) _).left (by simp) _)
    simpa only [String.append_assoc] using hcall
  | keyword h _ ih =>
    have hne : awaited ≠ [] := fun hnil => Bool.noConfusion (hawaited hnil)
    rw [Expr.render, Expr.uses]
    exact Reads.keyword h.1 h.2 hne (ih fun hnil => absurd hnil hne)
  | index h _ ih =>
    rw [Expr.render, Expr.uses]
    have hitem : Reads (']' :: awaited) _ _ := ih (by simp)
    have hindex := (reads_symbol h).append hitem.square
      ((hsquare.left (by decide) _).left (by simp) _)
    simpa only [String.append_assoc] using hindex
  | list _ ih =>
    rw [Expr.render, Expr.uses, Expr.renderAll_eq_map, Expr.usesOfAll_eq]
    exact (Reads.commaSeparated fun e he => ih e he (by simp)).square
  | tuple _ ih =>
    rw [Expr.render, Expr.uses, Expr.renderAll_eq_map, Expr.usesOfAll_eq]
    exact (Reads.tupleBody fun e he => ih e he (by simp)).round
  | @dict entries =>
    have hentry : ∀ entry ∈ entries, Reads ('\x7d' :: awaited) (Expr.renderEntry entry) [] := by
      intro entry _
      have hvalue : Reads ('\x7d' :: awaited) (": " ++ quote entry.2) [] :=
        (reads_quote entry.2).gap_append (show IsGap ": " from rfl)
      have hboth := hvalue.quote_append entry.1
      simpa only [Expr.renderEntry, String.append_assoc] using hboth
    rw [Expr.render, Expr.uses]
    have hentries := (Reads.commaSeparated hentry).curly
    simpa using hentries

end Expressions

end SchemaCodegen.Code
