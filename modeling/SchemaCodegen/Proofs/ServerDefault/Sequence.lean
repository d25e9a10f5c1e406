import SchemaCodegen.Proofs.ServerDefault.Parentheses
import SchemaCodegen.Proofs.ServerDefault.Typecast
import SchemaCodegen.Proofs.Text.Case
import SchemaCodegen.ServerDefault

/-!
# Proofs: defaults that advance a sequence

A default is taken to advance a sequence when the expression, without the parentheses around it,
begins in a certain way. Two things are said about this test. A default that passes it may come back
in generated code only where casts were removed from behind parentheses: those are looked into by
the test and not by the clean-up. And for PostgreSQL the test looks no further than the opening
parenthesis of a call, so the default that it keeps back advances a sequence and does nothing else
exactly when nothing but casts follows the call.
-/

namespace SchemaCodegen.ServerDefault

open SchemaCodegen.Code SchemaCodegen.Text

/-! ## Calls -/

/-- The function that advances a sequence in PostgreSQL. -/
def nextval : List Char :=
  "nextval".toList

/-- An expression that begins with a name, in any letter case, and an opening parenthesis. -/
def BeginsCall (name cs : List Char) : Prop :=
  ∃ word rest, cs = word ++ '(' :: rest ∧ word.map Char.toLower = name

/-- An expression that is a single call: the parenthesis behind the name closes at the end. -/
def IsCall (name cs : List Char) : Prop :=
  ∃ word args, cs = word ++ '(' :: (args ++ [')']) ∧ word.map Char.toLower = name ∧
    isBalanced args = true

theorem IsCall.beginsCall {name cs : List Char} (h : IsCall name cs) : BeginsCall name cs := by
  obtain ⟨word, args, rfl, hword, _⟩ := h
  exact ⟨word, args ++ [')'], rfl, hword⟩

theorem BeginsCall.append {name cs : List Char} (h : BeginsCall name cs) (more : List Char) :
    BeginsCall name (cs ++ more) := by
  obtain ⟨word, rest, rfl, hword⟩ := h
  exact ⟨word, rest ++ more, by simp, hword⟩

/-- The letters of the function's name are no marks of expressions, in any letter case. -/
theorem not_mark_of_mem {word : List Char} (h : word.map Char.toLower = nextval) :
    ∀ c ∈ word, (c ≠ '\'' ∧ c ≠ '(' ∧ c ≠ ')') ∧ c ≠ ':' ∧ isBlank c = false := by
  intro c hc
  have hmem : c.toLower ∈ nextval := h ▸ List.mem_map_of_mem hc
  by_cases hlt : c.toNat < 128
  · exact of_forall_lt (p := fun c => c.toLower ∈ nextval →
      (c ≠ '\'' ∧ c ≠ '(' ∧ c ≠ ')') ∧ c ≠ ':' ∧ isBlank c = false) (by decide) hlt hmem
  · have hsmall : nextval.all (·.toNat < 128) = true := by decide
    rw [toLower_of_le (by omega)] at hmem
    exact absurd (of_decide_eq_true (List.all_eq_true.1 hsmall c hmem)) hlt

/-- Where a call of the function begins, the first character is a letter. -/
theorem BeginsCall.exists_cons {cs : List Char} (h : BeginsCall nextval cs) :
    ∃ c rest, cs = c :: rest ∧ c ≠ '(' ∧ c ≠ ':' ∧ isBlank c = false := by
  obtain ⟨word, rest, rfl, hword⟩ := h
  have hmark := not_mark_of_mem hword
  cases word with
  | nil => cases hword
  | cons c word =>
    obtain ⟨⟨_, hopen, _⟩, hcolon, hblank⟩ := hmark c (List.mem_cons_self ..)
    exact ⟨c, _, rfl, hopen, hcolon, hblank⟩

theorem BeginsCall.isWrapped {cs : List Char} (h : BeginsCall nextval cs) :
    isWrapped cs = false := by
  obtain ⟨c, rest, rfl, hopen, _⟩ := h.exists_cons
  simp [ServerDefault.isWrapped, hopen]

theorem IsCall.isBalanced {cs : List Char} (h : IsCall nextval cs) : isBalanced cs = true := by
  obtain ⟨word, args, rfl, hword, hargs⟩ := h
  have hmark := isBalanced_of_forall fun c hc => (not_mark_of_mem hword c hc).1
  rw [isBalanced_append hmark]
  exact isBalanced_between hargs

/-! ## What the test asks -/

/-- For PostgreSQL the test asks for the beginning of a call. -/
theorem isSequence_postgresql_iff {expression : String} :
    isSequence expression .postgresql = true ↔
      BeginsCall nextval (stripParensOf expression.toList) := by
  have hplain : ∀ c ∈ nextval ++ ['('], isPlainSmall c = true := List.all_eq_true.1 (by decide)
  have hstart : (sequenceStart .postgresql).toList = nextval ++ ['('] := by decide
  rw [isSequence, hstart, List.isPrefixOf_iff_prefix, isPrefix_lowerAfter_iff hplain]
  constructor
  · rintro ⟨front, rest, hsplit, hmap⟩
    obtain ⟨word, paren, rfl, hword, hparen⟩ := List.map_eq_append_iff.1 hmap
    obtain ⟨c, tail, rfl, hc, htail⟩ := List.map_eq_cons_iff.1 hparen
    obtain rfl := List.map_eq_nil_iff.1 htail
    obtain rfl := eq_of_toLower_eq hc rfl
    exact ⟨word, rest, by rw [hsplit]; simp, hword⟩
  · rintro ⟨word, rest, hsplit, hword⟩
    exact ⟨word ++ ['('], rest, by rw [hsplit]; simp, by rw [List.map_append, hword]; rfl⟩

/-- A default is left out exactly if it is blank, belongs to an identity column or passes the
test. -/
theorem forColumn_eq_none_iff {column : Column} {expression : String}
    (h : column.default = some expression) (dialect : Dialect) :
    forColumn column dialect = none ↔
      isBlankText expression = true ∨ column.isIdentity = true ∨
        isSequence expression dialect = true := by
  simp only [forColumn, h, ite_eq_left_iff, Bool.or_eq_true, not_or, reduceCtorEq, imp_false,
    not_and, Decidable.not_not, or_assoc]
  tauto

/-- The default that is stated is the cleaned expression. -/
theorem of_forColumn_eq_some {column : Column} {expression : String}
    (h : column.default = some expression) {dialect : Dialect} {expr : Expr}
    (hsome : forColumn column dialect = some expr) :
    expr = .call textSymbol [.literal (clean expression dialect)] ∧
      isSequence expression dialect = false := by
  simp only [forColumn, h] at hsome
  split at hsome
  · cases hsome
  · next hnot =>
    simp only [Bool.or_eq_true, not_or] at hnot
    exact ⟨(Option.some.inj hsome).symm, by simpa using hnot.2⟩

/-! ## Defaults that come back -/

/-- Around an expression that begins as the test asks, no parentheses are left to remove. -/
theorem BeginsCall.stripParensOf_eq {cs : List Char} (h : BeginsCall nextval cs)
    (htrimmed : IsTrimmed cs) : stripParensOf cs = cs :=
  stripParensOf_eq_self htrimmed h.isWrapped

/-- Where the test passes a PostgreSQL default and not what is stated of it, no call begins the
statement itself. -/
theorem isWrapped_stripCastsOf {expression : String}
    (hnot : isSequence expression .postgresql = false)
    (hclean : isSequence (stripCasts expression) .postgresql = true) :
    isWrapped (stripCastsOf expression.toList) = true := by
  by_contra hwrapped
  have htrimmed := isTrimmed_stripCastsOf expression.toList
  rw [isSequence_postgresql_iff, stripCasts, String.toList_ofList,
    stripParensOf_eq_self htrimmed (by simpa using hwrapped)] at hclean
  obtain ⟨casts, hsplit, _⟩ := exists_casts expression.toList
  have hbegins : BeginsCall nextval (strip expression.toList) := by
    rw [hsplit]
    exact hclean.append casts
  have hsequence : isSequence expression .postgresql = true := by
    rw [isSequence_postgresql_iff, ← stripParensOf_strip,
      hbegins.stripParensOf_eq (isTrimmed_strip _)]
    exact hbegins
  rw [hsequence] at hnot
  cases hnot

/-- The default that is stated for a column is the cleaned expression, and this passes the test for
defaults that advance a sequence exactly in one case: for PostgreSQL, where casts were removed from
behind a pair of parentheses with a call of the function in it. -/
theorem isSequence_clean_iff {column : Column} {expression : String} {dialect : Dialect}
    {expr : Expr} (hdefault : column.default = some expression)
    (hsome : forColumn column dialect = some expr) :
    expr = .call textSymbol [.literal (clean expression dialect)] ∧
      (isSequence (clean expression dialect) dialect = true ↔
        dialect = .postgresql ∧ ∃ body casts,
          (clean expression dialect).toList = '(' :: (body ++ [')']) ∧
          strip expression.toList = '(' :: (body ++ [')']) ++ casts ∧
          isBalanced body = true ∧ casts ≠ [] ∧ IsCasts casts ∧
          BeginsCall nextval (stripParensOf body)) := by
  obtain ⟨hexpr, hnot⟩ := of_forColumn_eq_some hdefault hsome
  refine ⟨hexpr, ?_⟩
  cases dialect with
  | mssql =>
    have hsame : isSequence (stripParens expression) .mssql = isSequence expression .mssql := by
      rw [isSequence, isSequence, stripParens, String.toList_ofList, stripParensOf_stripParensOf]
    simp [clean, hsame, hnot]
  | postgresql =>
    have htoList : (stripCasts expression).toList = stripCastsOf expression.toList :=
      String.toList_ofList
    obtain ⟨casts, hsplit, hcasts⟩ := exists_casts expression.toList
    constructor
    · intro hclean
      obtain ⟨body, hbody, hbalanced⟩ := isWrapped_iff.1 (isWrapped_stripCastsOf hnot hclean)
      have hbegins := isSequence_postgresql_iff.1 hclean
      rw [clean, htoList, hbody, stripParensOf_between hbalanced] at hbegins
      refine ⟨rfl, body, casts, htoList.trans hbody, by rw [← hbody]; exact hsplit, hbalanced, ?_,
        hcasts, hbegins⟩
      -- Without casts the test would have looked into the same expression before.
      rintro rfl
      rw [List.append_nil] at hsplit
      have hsequence : isSequence expression .postgresql = true := by
        rw [isSequence_postgresql_iff, ← stripParensOf_strip, hsplit, hbody,
          stripParensOf_between hbalanced]
        exact hbegins
      rw [hsequence] at hnot
      cases hnot
    · rintro ⟨_, body, _, hbody, _, hbalanced, _, _, hbegins⟩
      rw [isSequence_postgresql_iff, hbody, stripParensOf_between hbalanced]
      exact hbegins

/-- A column whose default advances a sequence in parentheses with casts behind them. -/
def ticketColumn : Column :=
  { name := "ticket", position := 1, typeName := "int8",
    default := some "( NEXTVAL('tickets'::regclass) )::integer::bigint" }

/-- The default of the column comes back without its casts. -/
theorem isSequence_clean_ticket :
    forColumn ticketColumn .postgresql =
        some (.call textSymbol [.literal "( NEXTVAL('tickets'::regclass) )"]) ∧
      ∃ body casts, strip "( NEXTVAL('tickets'::regclass) )::integer::bigint".toList =
          '(' :: (body ++ [')']) ++ casts ∧ casts ≠ [] ∧ IsCasts casts ∧
        BeginsCall nextval (stripParensOf body) := by
  have hsome : forColumn ticketColumn .postgresql =
      some (.call textSymbol [.literal "( NEXTVAL('tickets'::regclass) )"]) := by rfl
  obtain ⟨_, _, body, casts, _, hsplit, _, hne, hcasts, hbegins⟩ :=
    (isSequence_clean_iff rfl hsome).imp_right fun h => h.1 (by decide +kernel)
  exact ⟨hsome, body, casts, hsplit, hne, hcasts, hbegins⟩

/-- A default that only advances a sequence is stated, and passes the test once it is cleaned. -/
theorem isSequence_stated :
    forColumn { name := "id", position := 1, typeName := "int4",
                default := some "(nextval('c_seq'::regclass))::integer" } .postgresql =
        some (.call textSymbol [.literal "(nextval('c_seq'::regclass))"]) ∧
      clean "(nextval('c_seq'::regclass))::integer" .postgresql = "(nextval('c_seq'::regclass))" ∧
      isSequence "(nextval('c_seq'::regclass))" .postgresql = true :=
  ⟨by rfl, by rfl, by rfl⟩

/-! ## Defaults that are left out -/

/-- What can be left of an expression when pairs of parentheses around it and casts at its end are
taken away, in any number and order. -/
inductive Peels : List Char → List Char → Prop where
  /-- Nothing is taken away. -/
  | refl (cs : List Char) : Peels cs cs
  /-- A pair of parentheses is taken away, and more from what was between them. -/
  | parens {body rest : List Char} (hbody : isBalanced body = true)
      (hrest : Peels (strip body) rest) : Peels ('(' :: (body ++ [')'])) rest
  /-- A cast is taken away, and more from what was before it. -/
  | cast {front blanks target rest : List Char} (hfront : isBalanced front = true)
      (hblanks : ∀ c ∈ blanks, isBlank c = true) (htarget : IsTarget target)
      (hrest : Peels front rest) : Peels (front ++ blanks ++ ':' :: ':' :: target) rest

/-- The expression, without parentheses around it and casts at its end, is a single call of the
function that advances a sequence. -/
def JustAdvances (expression : String) : Prop :=
  ∃ rest, Peels (strip expression.toList) rest ∧ IsCall nextval rest

theorem Peels.trans {cs ds rest : List Char} (h : Peels cs ds) (hrest : Peels ds rest) :
    Peels cs rest := by
  induction h with
  | refl => exact hrest
  | parens hbody _ ih => exact .parens hbody (ih hrest)
  | cast hfront hblanks htarget _ ih => exact .cast hfront hblanks htarget (ih hrest)

theorem peels_unwrap (n : Nat) (cs : List Char) : Peels cs (unwrap n cs) := by
  induction n generalizing cs with
  | zero => exact .refl cs
  | succ n ih =>
    rw [unwrap]
    split
    · next hwrapped =>
      obtain ⟨body, rfl, hbody⟩ := isWrapped_iff.1 hwrapped
      rw [inner_between]
      exact .parens hbody (ih _)
    · exact .refl cs

theorem peels_append {front casts : List Char} (hfront : isBalanced front = true)
    (hcasts : IsCasts casts) : Peels (front ++ casts) front := by
  induction hcasts with
  | nil => rw [List.append_nil]; exact .refl front
  | @snoc casts blanks target hcasts hblanks htarget ih =>
    have hbalanced : isBalanced (front ++ casts) = true :=
      (isBalanced_append hfront).trans hcasts.isBalanced
    rw [← List.append_assoc, ← List.append_assoc]
    exact .cast hbalanced hblanks htarget ih

/-- From an expression that begins with a letter nothing but casts is taken away. -/
theorem Peels.exists_casts {cs rest : List Char} (h : Peels cs rest)
    (hcons : ∃ c tail, cs = c :: tail ∧ c ≠ '(' ∧ c ≠ ':' ∧ isBlank c = false) :
    ∃ casts, cs = rest ++ casts ∧ IsCasts casts := by
  induction h with
  | refl cs => exact ⟨[], (List.append_nil cs).symm, .nil⟩
  | parens =>
    obtain ⟨c, tail, hsplit, hopen, _⟩ := hcons
    exact absurd (List.cons.inj hsplit).1.symm hopen
  | @cast front blanks target rest hfront hblanks htarget _ ih =>
    obtain ⟨c, tail, hsplit, hopen, hcolon, hblank⟩ := hcons
    cases front with
    | nil =>
      -- Without anything before it the cast itself would begin the expression.
      cases blanks with
      | nil => exact absurd (List.cons.inj hsplit).1.symm hcolon
      | cons d blanks =>
        obtain ⟨rfl, _⟩ := List.cons.inj hsplit
        rw [hblanks d (List.mem_cons_self ..)] at hblank
        cases hblank
    | cons d front =>
      obtain ⟨rfl, _⟩ := List.cons.inj hsplit
      obtain ⟨casts, hcasts, hvalid⟩ := ih ⟨d, front, rfl, hopen, hcolon, hblank⟩
      refine ⟨casts ++ blanks ++ ':' :: ':' :: target, ?_, hvalid.snoc hblanks htarget⟩
      rw [hcasts]
      simp only [List.append_assoc]

/-- From a wrapped expression nothing is taken away before the parentheses around it. -/
theorem Peels.of_isWrapped {cs rest : List Char} (h : Peels cs rest)
    (hwrapped : isWrapped cs = true) (hrest : isWrapped rest = false) :
    Peels (strip (inner cs)) rest := by
  cases h with
  | refl => rw [hwrapped] at hrest; cases hrest
  | parens _ hpeels => rwa [inner_between]
  | @cast front blanks target rest hfront hblanks htarget _ =>
    obtain ⟨body, hsplit, hbody⟩ := isWrapped_iff.1 hwrapped
    rw [List.append_assoc] at hsplit
    obtain rfl := eq_nil_of_isBalanced_front hbody hfront (by simp) hsplit
    -- A cast does not begin with a parenthesis.
    cases blanks with
    | nil => cases (List.cons.inj hsplit).1
    | cons c blanks =>
      obtain ⟨rfl, _⟩ := List.cons.inj hsplit
      exact absurd (hblanks '(' (List.mem_cons_self ..)) (by decide)

theorem Peels.unwrap {cs rest : List Char} (h : Peels cs rest) (hrest : isWrapped rest = false)
    (n : Nat) : Peels (unwrap n cs) rest := by
  induction n generalizing cs with
  | zero => exact h
  | succ n ih =>
    rw [ServerDefault.unwrap]
    split
    · next hwrapped => exact ih (h.of_isWrapped hwrapped hrest)
    · exact h

/-- A default that passes the test advances a sequence and does nothing else exactly when nothing
but casts follows the call. -/
theorem justAdvances_iff {expression : String}
    (hbegins : BeginsCall nextval (stripParensOf expression.toList)) :
    JustAdvances expression ↔ ∃ call casts, stripParensOf expression.toList = call ++ casts ∧
      IsCall nextval call ∧ IsCasts casts := by
  constructor
  · rintro ⟨rest, hpeels, hcall⟩
    have hunwrapped := hpeels.unwrap hcall.beginsCall.isWrapped expression.toList.length
    obtain ⟨casts, hsplit, hcasts⟩ := hunwrapped.exists_casts hbegins.exists_cons
    exact ⟨rest, casts, hsplit, hcall, hcasts⟩
  · rintro ⟨call, casts, hsplit, hcall, hcasts⟩
    have hpeels : Peels (strip expression.toList) (call ++ casts) := by
      rw [← hsplit]
      exact peels_unwrap _ _
    exact ⟨call, hpeels.trans (peels_append hcall.isBalanced hcasts), hcall⟩

/-- A PostgreSQL default that is not blank and belongs to no identity column is left out exactly
when, without the parentheses around it, it begins with a call of the function that advances a
sequence. It then does nothing else exactly when nothing but casts follows the call. -/
theorem forColumn_postgresql_eq_none_iff {column : Column} {expression : String}
    (hdefault : column.default = some expression) (hblank : isBlankText expression = false)
    (hidentity : column.isIdentity = false) :
    (forColumn column .postgresql = none ↔
        BeginsCall nextval (stripParensOf expression.toList)) ∧
      (forColumn column .postgresql = none → (JustAdvances expression ↔
        ∃ call casts, stripParensOf expression.toList = call ++ casts ∧
          IsCall nextval call ∧ IsCasts casts)) := by
  have hnone : forColumn column .postgresql = none ↔
      BeginsCall nextval (stripParensOf expression.toList) := by
    rw [forColumn_eq_none_iff hdefault, hblank, hidentity, isSequence_postgresql_iff]
    simp
  exact ⟨hnone, fun h => justAdvances_iff (hnone.1 h)⟩

/-- A column whose default is a call between parentheses, with a cast behind it. -/
def orderColumn : Column :=
  { name := "order", position := 1, typeName := "int4",
    default := some "((NextVal('orders'::regclass)::int))" }

/-- The default of the column is left out and only advances a sequence. -/
theorem forColumn_postgresql_eq_none_order :
    forColumn orderColumn .postgresql = none ∧
      JustAdvances "((NextVal('orders'::regclass)::int))" := by
  have hnone : forColumn orderColumn .postgresql = none := by rfl
  have hcast : IsCasts (([] ++ []) ++ ':' :: ':' :: "int".toList) :=
    .snoc .nil (by simp) ⟨by decide, by decide⟩
  refine ⟨hnone, ((forColumn_postgresql_eq_none_iff rfl (by decide) rfl).2 hnone).2
    ⟨"NextVal('orders'::regclass)".toList, _, by rfl, ?_, hcast⟩⟩
  exact ⟨"NextVal".toList, "'orders'::regclass".toList, by decide, by decide, by decide⟩

/-- A default that goes on after the call is left out as well, though it does more than advance a
sequence. -/
theorem not_justAdvances_left_out :
    forColumn { name := "id", position := 1, typeName := "int8",
                default := some "nextval('a') + 1" } .postgresql = none ∧
      ¬ JustAdvances "nextval('a') + 1" := by
  have hbegins : BeginsCall nextval (stripParensOf "nextval('a') + 1".toList) :=
    ⟨"nextval".toList, "'a') + 1".toList, by rfl, by decide⟩
  refine ⟨by rfl, ?_⟩
  rw [justAdvances_iff hbegins]
  rintro ⟨call, casts, hsplit, ⟨word, args, rfl, _⟩, hcasts⟩
  have hself : stripParensOf "nextval('a') + 1".toList = "nextval('a') + 1".toList := by rfl
  rw [hself] at hsplit
  by_cases hne : casts = []
  · subst hne
    have hlast := congrArg List.getLast? hsplit
    rw [List.append_nil, ← List.cons_append, ← List.append_assoc, List.getLast?_concat] at hlast
    exact absurd hlast (by decide)
  · have hcolon : ':' ∈ "nextval('a') + 1".toList := by
      rw [hsplit]
      exact List.mem_append_right _ (hcasts.mem_colon hne)
    exact absurd hcolon (by decide)

end SchemaCodegen.ServerDefault
