import SchemaCodegen.Proofs.Code.Blocks
import SchemaCodegen.Proofs.Text.Literal

/-!
# Proofs: literals and brackets

A scan of code by the rules of the generated language for literals between single quotes: inside one
a backslash guards the next character, and the first unguarded quote ends it. Outside literals the
brackets have to close each other in turn. The scan also refuses a line that ends inside a literal,
and outside literals the marks of other literals, of comments and of continued lines, so that
nothing else of the language gets in its way. A closed text is one that the scan leaves as it
entered it, whatever brackets are open around it.
-/

namespace SchemaCodegen.Code

open SchemaCodegen.Text

/-! ## The scan -/

/-- Where a scan stands with respect to literals. -/
inductive Place where
  /-- Outside literals. -/
  | outside
  /-- Inside a literal. -/
  | inside
  /-- Inside a literal, after a backslash that guards the next character. -/
  | guarded
  deriving DecidableEq, Repr

/-- The bracket that closes the given one, if it opens. -/
def closing? (c : Char) : Option Char :=
  if c = '(' then some ')' else if c = '[' then some ']' else if c = '\x7b' then some '\x7d'
  else none

/-- Whether a character closes a bracket. -/
def isClosing (c : Char) : Bool :=
  [')', ']', '\x7d'].contains c

/-- Whether a character begins another kind of literal, a comment or a continued line. -/
def isForeign (c : Char) : Bool :=
  ['"', '#', '\\'].contains c

/-- How far a scan is inside literals and brackets. -/
structure Scan where
  /-- Where it stands with respect to literals. -/
  place : Place := .outside
  /-- The closing brackets that it waits for, the next one first. -/
  awaited : List Char := []
  deriving DecidableEq, Repr

namespace Scan

/-- The scan after one more character; there is none after a character that does not fit. -/
def step (s : Scan) (c : Char) : Option Scan :=
  match s.place with
  | .guarded => if c = '\n' then none else some { s with place := .inside }
  | .inside =>
    if c = '\n' then none
    else if c = '\\' then some { s with place := .guarded }
    else if c = '\'' then some { s with place := .outside }
    else some s
  | .outside =>
    if c = '\'' then some { s with place := .inside }
    else if isForeign c then none
    else if isClosing c then
      match s.awaited with
      | [] => none
      | next :: awaited => if c = next then some { s with awaited := awaited } else none
    else
      match closing? c with
      | some close => some { s with awaited := close :: s.awaited }
      | none => some s

/-- The scan after a whole text. -/
def run (s : Scan) : List Char → Option Scan
  | [] => some s
  | c :: rest => (s.step c).bind fun next => next.run rest

/-- A text is scanned part after part. -/
theorem run_append (s : Scan) (front back : List Char) :
    s.run (front ++ back) = (s.run front).bind fun next => next.run back := by
  induction front generalizing s with
  | nil => rfl
  | cons c front ih =>
    rw [List.cons_append, run, run, Option.bind_assoc]
    exact congrArg _ (funext ih)

/-- Where a scan goes on after a line feed, it stands outside literals. -/
theorem place_of_run_lineFeed {s t : Scan} {before after : List Char}
    (h : s.run (before ++ '\n' :: after) = some t) :
    ∃ u, s.run before = some u ∧ u.place = .outside := by
  rw [run_append, Option.bind_eq_some_iff] at h
  obtain ⟨u, hu, hafter⟩ := h
  rw [run, Option.bind_eq_some_iff] at hafter
  obtain ⟨next, hstep, _⟩ := hafter
  refine ⟨u, hu, ?_⟩
  rw [step] at hstep
  cases hplace : u.place with
  | outside => rfl
  | inside => simp [hplace] at hstep
  | guarded => simp [hplace] at hstep

end Scan

/-- Whether a scan of the text begins and ends outside literals and brackets. -/
def IsBalanced (cs : List Char) : Prop :=
  Scan.run {} cs = some {}

/-! ## Closed texts -/

/-- A text that the scan leaves as it entered it, whatever brackets are open around it. -/
def IsClosed (text : String) : Prop :=
  ∀ awaited, Scan.run ⟨.outside, awaited⟩ text.toList = some ⟨.outside, awaited⟩

/-- A closed text is balanced by itself. -/
theorem IsClosed.isBalanced {text : String} (h : IsClosed text) : IsBalanced text.toList :=
  h []

theorem isClosed_empty : IsClosed "" := by
  intro awaited
  rfl

theorem IsClosed.append {s t : String} (hs : IsClosed s) (ht : IsClosed t) : IsClosed (s ++ t) := by
  intro awaited
  rw [String.toList_append, Scan.run_append, hs awaited]
  exact ht awaited

theorem IsClosed.intercalate {separator : String} {texts : List String}
    (hs : IsClosed separator) (ht : ∀ text ∈ texts, IsClosed text) :
    IsClosed (separator.intercalate texts) := by
  induction texts with
  | nil => exact isClosed_empty
  | cons text texts ih =>
    rw [List.forall_mem_cons] at ht
    cases texts with
    | nil => simpa using ht.1
    | cons next texts =>
      rw [String.intercalate_cons_cons]
      exact (ht.1.append hs).append (ih ht.2)

/-- A closed text between a bracket and the one that closes it is closed. -/
theorem IsClosed.bracket {o c : Char} {text : String} (h : IsClosed text)
    (hopen : ∀ awaited, Scan.step ⟨.outside, awaited⟩ o = some ⟨.outside, c :: awaited⟩)
    (hclose : ∀ awaited, Scan.step ⟨.outside, c :: awaited⟩ c = some ⟨.outside, awaited⟩) :
    IsClosed (String.ofList [o] ++ text ++ String.ofList [c]) := by
  intro awaited
  rw [String.toList_append, String.toList_append, String.toList_ofList, String.toList_ofList,
    List.append_assoc, List.singleton_append, Scan.run, hopen awaited, Option.bind_some,
    Scan.run_append, h (c :: awaited), Option.bind_some, Scan.run, hclose awaited]
  rfl

theorem IsClosed.round {text : String} (h : IsClosed text) : IsClosed ("(" ++ text ++ ")") :=
  h.bracket (o := '(') (c := ')') (fun _ => rfl) (fun _ => rfl)

theorem IsClosed.square {text : String} (h : IsClosed text) : IsClosed ("[" ++ text ++ "]") :=
  h.bracket (o := '[') (c := ']') (fun _ => rfl) (fun _ => rfl)

theorem IsClosed.curly {text : String} (h : IsClosed text) :
    IsClosed ("\x7b" ++ text ++ "\x7d") :=
  h.bracket (o := '\x7b') (c := '\x7d') (fun _ => rfl) (fun _ => rfl)

/-! ## Ordinary characters -/

/-- Whether a character means nothing to a scan outside literals. -/
def isOrdinary (c : Char) : Bool :=
  !(c == '\'' || isForeign c || isClosing c || (closing? c).isSome)

/-- An ordinary character leaves a scan outside literals as it is. -/
theorem Scan.step_of_isOrdinary {c : Char} (h : isOrdinary c = true) (awaited : List Char) :
    Scan.step ⟨.outside, awaited⟩ c = some ⟨.outside, awaited⟩ := by
  simp only [isOrdinary, Bool.not_eq_true', Bool.or_eq_false_iff, beq_eq_false_iff_ne,
    Option.isSome_eq_false_iff, Option.isNone_iff_eq_none] at h
  obtain ⟨⟨⟨hquote, hforeign⟩, hclosing⟩, hopening⟩ := h
  simp [step, hquote, hforeign, hclosing, hopening]

theorem isClosed_of_isMadeOf {text : String} (h : IsMadeOf isOrdinary text) : IsClosed text := by
  intro awaited
  rw [IsMadeOf] at h
  generalize text.toList = cs at h
  induction cs with
  | nil => rfl
  | cons c cs ih =>
    rw [List.forall_mem_cons] at h
    rw [Scan.run, Scan.step_of_isOrdinary h.1]
    exact ih h.2

theorem isClosed_of_all {cs : List Char} (h : cs.all isOrdinary = true) :
    IsClosed (String.ofList cs) :=
  isClosed_of_isMadeOf (isMadeOf_of_all h)

/-- A plain text is closed. -/
theorem isClosed_of_isPlain {text : String} (h : IsPlain text) : IsClosed text := by
  refine isClosed_of_isMadeOf (h.mono fun c hc => ?_)
  have hne : ∀ s ∈ signs, c ≠ s := fun s hs => ne_of_isPlainChar hc hs
  simp only [signs, List.forall_mem_cons, List.not_mem_nil, false_implies] at hne
  simp [isOrdinary, isForeign, isClosing, closing?, hne]

/-! ## Literals -/

/-- An escaped character leaves a scan inside its literal. -/
theorem Scan.run_escapeChar (c : Char) (awaited : List Char) :
    Scan.run ⟨.inside, awaited⟩ (escapeChar c) = some ⟨.inside, awaited⟩ := by
  rw [escapeChar]
  split_ifs with hslash hquote hfeed hreturn htab
  · rfl
  · rfl
  · rfl
  · rfl
  · rfl
  · simp [run, step, hslash, hquote, hfeed]

theorem Scan.run_escape (cs : List Char) (awaited : List Char) :
    Scan.run ⟨.inside, awaited⟩ (cs.flatMap escapeChar) = some ⟨.inside, awaited⟩ := by
  induction cs with
  | nil => rfl
  | cons c cs ih =>
    rw [List.flatMap_cons, run_append, run_escapeChar]
    exact ih

/-- A quoted text is closed, whatever the text is. -/
theorem isClosed_quote (text : String) : IsClosed (quote text) := by
  intro awaited
  have hopen : Scan.step ⟨.outside, awaited⟩ '\'' = some ⟨.inside, awaited⟩ := rfl
  have hclose : Scan.run ⟨.inside, awaited⟩ ['\''] = some ⟨.outside, awaited⟩ := rfl
  rw [toList_quote, Scan.run, hopen, Option.bind_some, Scan.run_append, Scan.run_escape,
    Option.bind_some, hclose]

/-! ## Expressions -/

theorem isClosed_commaSeparated {items : List String} (h : ∀ item ∈ items, IsClosed item) :
    IsClosed (commaSeparated items) :=
  IsClosed.intercalate (isClosed_of_all rfl) h

theorem isClosed_tupleBody {items : List String} (h : ∀ item ∈ items, IsClosed item) :
    IsClosed (Expr.tupleBody items) := by
  fun_cases Expr.tupleBody items with
  | case1 item => exact (List.forall_mem_singleton.1 h).append (isClosed_of_all rfl)
  | case2 => exact isClosed_commaSeparated h

theorem isClosed_renderEntry (entry : String × String) : IsClosed (Expr.renderEntry entry) :=
  ((isClosed_quote entry.1).append (isClosed_of_all rfl)).append (isClosed_quote entry.2)

/-- An expression with plain names is closed. -/
theorem Expr.IsPlain.isClosed {e : Expr} (h : e.IsPlain) : IsClosed e.render := by
  have hall : ∀ {es : List Expr}, (∀ e ∈ es, IsClosed e.render) →
      ∀ text ∈ renderAll es, IsClosed text := by
    intro es hes text htext
    rw [renderAll_eq_map] at htext
    obtain ⟨e, he, rfl⟩ := List.mem_map.1 htext
    exact hes e he
  induction h with
  | symbol h =>
    rw [Expr.render]
    exact isClosed_of_isPlain h.render
  | literal =>
    rw [Expr.render]
    exact isClosed_quote _
  | number =>
    rw [Expr.render]
    exact isClosed_of_isPlain (isPlain_toString_int _)
  | @truth value =>
    rw [Expr.render]
    cases value
    · exact isClosed_of_all rfl
    · exact isClosed_of_all rfl
  | call h _ ih =>
    rw [Expr.render]
    have hargs := (isClosed_commaSeparated (hall ih)).round
    simpa only [String.append_assoc] using (isClosed_of_isPlain h.render).append hargs
  | keyword h _ ih =>
    rw [Expr.render]
    exact ((isClosed_of_isPlain h).append (isClosed_of_all rfl)).append ih
  | index h _ ih =>
    rw [Expr.render]
    simpa only [String.append_assoc] using (isClosed_of_isPlain h.render).append ih.square
  | list _ ih =>
    rw [Expr.render]
    exact (isClosed_commaSeparated (hall ih)).square
  | tuple _ ih =>
    rw [Expr.render]
    exact (isClosed_tupleBody (hall ih)).round
  | dict =>
    rw [Expr.render]
    refine (isClosed_commaSeparated fun text htext => ?_).curly
    obtain ⟨entry, _, rfl⟩ := List.mem_map.1 htext
    exact isClosed_renderEntry entry

end SchemaCodegen.Code
