import SchemaCodegen.Proofs.Code.Words
import SchemaCodegen.Proofs.Style.Plain

/-!
# Proofs: the names that blocks use

A block of a generated module uses the names that its code writes and those of its expressions. What
a reader finds in the text of a block is therefore known from its tree, and the symbols of the tree
are found there.
-/

namespace SchemaCodegen

open SchemaCodegen.Text SchemaCodegen.Code SchemaCodegen.Code.Vocabulary

namespace Code

/-! ## Expressions of the vocabulary -/

theorem isName_of_mem_argumentNames : ∀ name ∈ argumentNames, name ≠ "" ∧ IsName name := by
  decide

theorem Expr.IsSpoken.reads {dialect : Dialect} {e : Expr} {awaited : List Char}
    (h : e.IsSpoken dialect) (hawaited : awaited = [] → e.isKeyword = false) :
    Reads awaited e.render e.uses :=
  reads_expr (h.mono isWord_of_mem_vocabulary isName_of_mem_argumentNames) hawaited

/-- A use that needs no import and no definition: a number, the name of an argument, or a keyword of
the language. -/
def Use.IsIncidental (use : Use) : Prop :=
  use.isNumber = true ∨ use.isArgument = true ∨ use.text ∈ Naming.keywords

theorem mem_nameUses {name : String} {use : Use} (h : use ∈ nameUses name) :
    name ≠ "" ∧ use = ⟨name.toList, false, false⟩ := by
  unfold nameUses at h
  split at h
  · cases h
  · next hne => exact ⟨hne, List.mem_singleton.1 h⟩

theorem text_of_mem_nameUses {name : String} {use : Use} (h : use ∈ nameUses name) :
    use.text = name := by
  obtain ⟨_, rfl⟩ := mem_nameUses h
  exact String.ofList_toList

/-- A number begins with a digit. -/
theorem isNumber_of_mem_nameUses {n : Nat} {use : Use} (h : use ∈ nameUses (toString n)) :
    use.isNumber = true := by
  obtain ⟨hne, rfl⟩ := mem_nameUses h
  have hdigits : ∀ c ∈ (toString n).toList, c.isDigit = true := by
    intro c hc
    have hmem : c ∈ Nat.toDigits 10 n := by simpa using hc
    exact Nat.isDigit_of_mem_toDigits (by decide) (by decide) hmem
  unfold Use.isNumber
  cases hcs : (toString n).toList with
  | nil => exact absurd (String.toList_eq_nil_iff.1 hcs) hne
  | cons c cs => exact hdigits c (by rw [hcs]; exact List.mem_cons_self ..)

/-- A use of something that is defined or that is a symbol, or an incidental one. -/
def Use.IsFrom (defined : List String) (symbols : List Symbol) (use : Use) : Prop :=
  use.IsIncidental ∨ use.text ∈ defined ∨ ∃ symbol ∈ symbols, use ∈ symbol.uses

section Origins

variable {defined : List String} {symbols : List Symbol}

theorem Use.IsFrom.mono {use : Use} (h : use.IsFrom defined symbols) {more : List String}
    {others : List Symbol} (hdefined : defined ⊆ more) (hsymbols : symbols ⊆ others) :
    use.IsFrom more others := by
  rcases h with h | h | ⟨symbol, hsymbol, huse⟩
  · exact Or.inl h
  · exact Or.inr (Or.inl (hdefined h))
  · exact Or.inr (Or.inr ⟨symbol, hsymbols hsymbol, huse⟩)

theorem isFrom_of_mem_symbols {symbol : Symbol} (h : symbol ∈ symbols) :
    ∀ use ∈ symbol.uses, use.IsFrom defined symbols :=
  fun _ huse => Or.inr (Or.inr ⟨symbol, h, huse⟩)

/-- A name that is defined is used as such. -/
theorem isFrom_of_mem_defined {name : String} (h : name ∈ defined) :
    ∀ use ∈ nameUses name, use.IsFrom defined symbols := by
  intro use huse
  exact Or.inr (Or.inl (text_of_mem_nameUses huse ▸ h))

theorem isFrom_of_keyword {name : String} (h : name ∈ Naming.keywords) :
    ∀ use ∈ nameUses name, use.IsFrom defined symbols := by
  intro use huse
  exact Or.inl (Or.inr (Or.inr (text_of_mem_nameUses huse ▸ h)))

end Origins

section Uses

variable {p : Symbol → Prop} {k : String → Prop}

/-- What an expression uses is incidental or comes from one of its symbols. -/
theorem Expr.UsesOnly.isFrom {e : Expr} (h : e.UsesOnly p k) :
    ∀ use ∈ e.uses, use.IsFrom [] e.symbols := by
  have hall : ∀ {es : List Expr}, (∀ e ∈ es, ∀ use ∈ e.uses, use.IsFrom [] e.symbols) →
      ∀ use ∈ usesOfAll es, use.IsFrom [] (symbolsOfAll es) := by
    intro es hes use huse
    rw [usesOfAll_eq, ← List.flatMap_def, List.mem_flatMap] at huse
    obtain ⟨e, he, huse⟩ := huse
    rw [symbolsOfAll_eq_flatMap]
    refine (hes e he use huse).mono (List.nil_subset _) fun symbol hsymbol => ?_
    exact List.mem_flatMap.2 ⟨e, he, hsymbol⟩
  induction h with
  | @symbol symbol h =>
    rw [uses, Expr.symbols]
    exact isFrom_of_mem_symbols (List.mem_singleton_self symbol)
  | literal => exact List.forall_mem_nil _
  | number => exact fun use huse => Or.inl (Or.inl (isNumber_of_mem_nameUses huse))
  | @truth value =>
    rw [uses]
    exact isFrom_of_keyword (by cases value <;> decide)
  | @call callee args h _ ih =>
    rw [uses, Expr.symbols]
    refine List.forall_mem_append.2 ⟨isFrom_of_mem_symbols (List.mem_cons_self ..), ?_⟩
    exact fun use huse => (hall ih use huse).mono (List.nil_subset _) (List.subset_cons_self _ _)
  | keyword _ _ ih =>
    rw [uses, Expr.symbols]
    exact List.forall_mem_cons.2 ⟨Or.inl (Or.inr (Or.inl rfl)), ih⟩
  | @index head item h _ ih =>
    rw [uses, Expr.symbols]
    refine List.forall_mem_append.2 ⟨isFrom_of_mem_symbols (List.mem_cons_self ..), ?_⟩
    exact fun use huse => (ih use huse).mono (List.nil_subset _) (List.subset_cons_self _ _)
  | list _ ih => exact hall ih
  | tuple _ ih => exact hall ih
  | dict => exact List.forall_mem_nil _

/-- The symbols of an expression are among what it uses. -/
theorem Expr.UsesOnly.mem_uses_of_mem_symbols {e : Expr} (h : e.UsesOnly p k) {symbol : Symbol}
    (hsymbol : symbol ∈ e.symbols) {use : Use} (huse : use ∈ symbol.uses) : use ∈ e.uses := by
  have hall : ∀ {es : List Expr}, symbol ∈ symbolsOfAll es →
      (∀ e ∈ es, symbol ∈ e.symbols → use ∈ e.uses) → use ∈ usesOfAll es := by
    intro es hmem hes
    rw [symbolsOfAll_eq_flatMap, List.mem_flatMap] at hmem
    obtain ⟨e, he, hmem⟩ := hmem
    rw [usesOfAll_eq]
    exact List.mem_flatten.2 ⟨e.uses, List.mem_map_of_mem he, hes e he hmem⟩
  induction h with
  | symbol h =>
    rw [Expr.symbols, List.mem_singleton] at hsymbol
    rwa [uses, ← hsymbol]
  | literal | number | truth | dict => cases hsymbol
  | call h _ ih =>
    rw [Expr.symbols, List.mem_cons] at hsymbol
    rw [uses, List.mem_append]
    rcases hsymbol with rfl | hsymbol
    · exact Or.inl huse
    · exact Or.inr (hall hsymbol fun e he => ih e he)
  | keyword _ _ ih =>
    rw [uses]
    exact List.mem_cons_of_mem _ (ih hsymbol)
  | index h _ ih =>
    rw [Expr.symbols, List.mem_cons] at hsymbol
    rw [uses, List.mem_append]
    rcases hsymbol with rfl | hsymbol
    · exact Or.inl huse
    · exact Or.inr (ih hsymbol)
  | list _ ih => exact hall hsymbol fun e he => ih e he
  | tuple _ ih => exact hall hsymbol fun e he => ih e he

/-- The names of arguments that an expression uses are those that it may. -/
theorem Expr.UsesOnly.of_isArgument {e : Expr} (h : e.UsesOnly p k) :
    ∀ use ∈ e.uses, use.isArgument = true → k use.text := by
  have hsymbol : ∀ {symbol : Symbol}, ∀ use ∈ symbol.uses, use.isArgument = true → k use.text := by
    intro symbol use huse hargument
    unfold Symbol.uses at huse
    split at huse
    · rcases List.mem_pair.1 huse with rfl | rfl
      · cases hargument
      · cases hargument
    · rw [List.mem_singleton.1 huse] at hargument
      cases hargument
  have hname : ∀ {name : String}, ∀ use ∈ nameUses name, use.isArgument = true → k use.text := by
    intro name use huse hargument
    rw [(mem_nameUses huse).2] at hargument
    cases hargument
  have hall : ∀ {es : List Expr},
      (∀ e ∈ es, ∀ use ∈ e.uses, use.isArgument = true → k use.text) →
      ∀ use ∈ usesOfAll es, use.isArgument = true → k use.text := by
    intro es hes use huse
    rw [usesOfAll_eq, ← List.flatMap_def, List.mem_flatMap] at huse
    obtain ⟨e, he, huse⟩ := huse
    exact hes e he use huse
  induction h with
  | symbol _ => exact hsymbol
  | literal | dict => exact List.forall_mem_nil _
  | number | truth => exact hname
  | call _ _ ih => exact List.forall_mem_append.2 ⟨hsymbol, hall ih⟩
  | @keyword name _ h _ ih =>
    refine List.forall_mem_cons.2 ⟨fun _ => ?_, ih⟩
    rwa [Use.text, String.ofList_toList]
  | index _ _ ih => exact List.forall_mem_append.2 ⟨hsymbol, ih⟩
  | list _ ih => exact hall ih
  | tuple _ ih => exact hall ih

end Uses

/-! ## Classes -/

/-- Names on both sides of a gap. -/
theorem Reads.beside {awaited : List Char} {s t gap : String} {us vs : List Use}
    (hs : Reads awaited s us) (ht : Reads awaited t vs) (hgap : IsGap gap)
    (hbreak : gap.toList.head?.any isBreak = true) : Reads awaited (s ++ gap ++ t) (us ++ vs) := by
  have hne : gap ≠ "" := by
    rintro rfl
    cases hbreak
  have hbreaks : Breaks gap.toList := by
    intro c hc
    rw [Option.mem_def.1 hc] at hbreak
    exact hbreak
  rw [String.append_assoc]
  exact hs.append (ht.gap_append hgap) (hbreaks.left hne t)

/-- What the line that begins a class uses. -/
theorem reads_classLine {name base : String} (hname : IsName name) (hbase : IsName base) :
    Reads [] ("class " ++ name ++ "(" ++ base ++ "):")
      (nameUses "class" ++ nameUses name ++ nameUses base) := by
  have hkeyword : Reads [] "class" (nameUses "class") := reads_name (by decide)
  have hcolon : Reads [] ":" [] := reads_gap (show IsGap ":" from rfl)
  have hparent : Reads [] ("(" ++ base ++ ")") (nameUses base) := (reads_name hbase).round
  have hround : Breaks "(".toList := breaks_cons (by decide +kernel) []
  have hhead : Reads [] ("class" ++ " " ++ name) (nameUses "class" ++ nameUses name) :=
    hkeyword.beside (reads_name hname) rfl (by decide +kernel)
  have hcall := hhead.append hparent ((hround.left (by decide) _).left (by simp) _)
  have hline := hcall.append hcolon (breaks_cons (by decide +kernel) [])
  simpa only [String.append_assoc, List.append_nil, show "class " = "class" ++ " " from rfl,
    show "):" = ")" ++ ":" from rfl] using hline

variable {dialect : Dialect}

/-- What an attribute uses. -/
def Attribute.uses (a : Attribute) : List Use :=
  nameUses a.name ++ a.hint.uses ++ a.value.uses

theorem Attribute.IsSpoken.reads {a : Attribute} (h : a.IsSpoken dialect) :
    Reads [] a.line a.uses := by
  have hhint : Reads [] a.hint.render a.hint.uses := h.hint.reads fun _ => h.hint_ne
  have hvalue : Reads [] a.value.render a.value.uses := h.value.reads fun _ => h.value_ne
  have hleft : Reads [] (a.name ++ ": " ++ a.hint.render) (nameUses a.name ++ a.hint.uses) :=
    (reads_name h.name).beside hhint rfl (by decide +kernel)
  have hboth := hleft.beside hvalue (show IsGap " = " from rfl) (by decide +kernel)
  have hline := hboth.gap_append (show IsGap indent from rfl)
  simpa only [Attribute.line, Attribute.uses, String.append_assoc] using hline

/-- An attribute uses its name and its symbols. -/
theorem Attribute.IsSpoken.isFrom {a : Attribute} (h : a.IsSpoken dialect) :
    ∀ use ∈ a.uses, use.IsFrom [a.name] a.symbols := by
  unfold Attribute.uses Attribute.symbols
  simp only [List.forall_mem_append]
  refine ⟨⟨isFrom_of_mem_defined (List.mem_singleton_self _), fun use huse => ?_⟩,
    fun use huse => ?_⟩
  · exact (h.hint.isFrom use huse).mono (List.nil_subset _) (List.subset_append_left _ _)
  · exact (h.value.isFrom use huse).mono (List.nil_subset _) (List.subset_append_right _ _)

theorem Attribute.IsSpoken.mem_uses {a : Attribute} (h : a.IsSpoken dialect) {symbol : Symbol}
    (hsymbol : symbol ∈ a.symbols) {use : Use} (huse : use ∈ symbol.uses) : use ∈ a.uses := by
  unfold Attribute.uses
  rw [List.mem_append, List.mem_append]
  rcases List.mem_append.1 hsymbol with hsymbol | hsymbol
  · exact Or.inl (Or.inr (h.hint.mem_uses_of_mem_symbols hsymbol huse))
  · exact Or.inr (h.value.mem_uses_of_mem_symbols hsymbol huse)

/-- What a line of a class that gives a value to a name uses. -/
theorem reads_assignment {name text : String} {us : List Use} (hname : IsName name)
    (htext : Reads [] text us) :
    Reads [] (indent ++ (name ++ " = " ++ text)) (nameUses name ++ us) := by
  have hboth : Reads [] (name ++ " = " ++ text) (nameUses name ++ us) :=
    (reads_name hname).beside htext rfl (by decide +kernel)
  exact hboth.gap_append (show IsGap indent from rfl)

/-- Joined lines use what they use one after another. -/
theorem reads_joinLines {awaited : List Char} {lines : List String} {uses : List (List Use)}
    (h : List.Forall₂ (Reads awaited) lines uses) :
    Reads awaited (joinLines lines) uses.flatten :=
  Reads.intercalate (c := '\n') (show IsGap "\n" from rfl) rfl (by decide +kernel) h

namespace ClassBlock

/-- What the line that states something of the table as a whole uses. -/
def argsUses (block : ClassBlock) : List (List Use) :=
  match block.tableArgs with
  | none => []
  | some args => [nameUses "__table_args__" ++ args.uses]

/-- What the lines of the attributes use, and the empty line before them. -/
def attributeUses (block : ClassBlock) : List (List Use) :=
  match block.attributes with
  | [] => []
  | attributes => [] :: attributes.map Attribute.uses

theorem flatten_attributeUses (block : ClassBlock) :
    block.attributeUses.flatten = block.attributes.flatMap Attribute.uses := by
  unfold attributeUses
  cases block.attributes with
  | nil => rfl
  | cons a attributes => rfl

/-- What a class uses, line by line. -/
def uses (block : ClassBlock) : List (List Use) :=
  [nameUses "class" ++ nameUses block.name ++ nameUses "Base", nameUses "__tablename__"] ++
    block.argsUses ++ block.attributeUses

section Spoken

variable {block : ClassBlock}

theorem IsSpoken.reads_argsLines (h : block.IsSpoken dialect) :
    List.Forall₂ (Reads []) block.argsLines block.argsUses := by
  unfold argsLines argsUses
  cases hcases : block.tableArgs with
  | none => exact .nil
  | some args =>
    have hname : IsName "__table_args__" := by decide
    have hread : Reads [] args.render args.uses :=
      (h.tableArgs args hcases).reads fun _ => h.tableArgs_ne args hcases
    refine .cons ?_ .nil
    simpa only [String.append_assoc, show "__table_args__ = " = "__table_args__" ++ " = " from rfl]
      using reads_assignment hname hread

theorem IsSpoken.reads_attributeLines (h : block.IsSpoken dialect) :
    List.Forall₂ (Reads []) block.attributeLines block.attributeUses := by
  have hall : List.Forall₂ (Reads []) (block.attributes.map Attribute.line)
      (block.attributes.map Attribute.uses) :=
    forall₂_reads fun a ha => (h.attributes a ha).reads
  unfold attributeLines attributeUses
  cases hcases : block.attributes with
  | nil => exact .nil
  | cons a attributes =>
    rw [hcases] at hall
    exact .cons (reads_gap (show IsGap "" from rfl)) hall

/-- A class is read as its parts say. -/
theorem IsSpoken.reads (h : block.IsSpoken dialect) :
    Reads [] (joinLines block.lines) block.uses.flatten := by
  have hclass : Reads [] ("class " ++ block.name ++ "(Base):")
      (nameUses "class" ++ nameUses block.name ++ nameUses "Base") := by
    simpa only [String.append_assoc, show "(Base):" = "(" ++ ("Base" ++ "):") from rfl]
      using reads_classLine h.name (show IsName "Base" by decide)
  have htable : Reads [] (indent ++ "__tablename__ = " ++ quote block.table)
      (nameUses "__tablename__") := by
    have hname : IsName "__tablename__" := by decide
    simpa only [String.append_assoc, List.append_nil,
      show "__tablename__ = " = "__tablename__" ++ " = " from rfl]
      using reads_assignment hname (reads_quote block.table)
  have hhead : List.Forall₂ (Reads []) (["class " ++ block.name ++ "(Base):",
      indent ++ "__tablename__ = " ++ quote block.table] ++ block.argsLines)
      ([nameUses "class" ++ nameUses block.name ++ nameUses "Base", nameUses "__tablename__"] ++
        block.argsUses) :=
    List.rel_append (.cons hclass (.cons htable .nil)) h.reads_argsLines
  exact reads_joinLines (List.rel_append hhead h.reads_attributeLines)

/-- The names that a class gives to things. -/
def names (block : ClassBlock) : List String :=
  ["Base", "__tablename__", "__table_args__", block.name] ++ block.attributes.map Attribute.name

theorem IsSpoken.isFrom_argsUses (h : block.IsSpoken dialect) :
    ∀ use ∈ block.argsUses.flatten, use.IsFrom block.names block.argsSymbols := by
  unfold argsUses argsSymbols
  cases hcases : block.tableArgs with
  | none => exact List.forall_mem_nil _
  | some args =>
    rw [List.flatten_singleton]
    refine List.forall_mem_append.2 ⟨isFrom_of_mem_defined (by simp [names]), fun use huse => ?_⟩
    exact ((h.tableArgs args hcases).isFrom use huse).mono (List.nil_subset _) fun _ hmem => hmem

/-- A class uses its own names and its symbols. -/
theorem IsSpoken.isFrom (h : block.IsSpoken dialect) :
    ∀ use ∈ block.uses.flatten, use.IsFrom block.names block.symbols := by
  have hargs : ∀ use ∈ block.argsUses.flatten, use.IsFrom block.names block.symbols :=
    fun use huse => (h.isFrom_argsUses use huse).mono (fun _ hmem => hmem)
      (List.subset_append_left _ _)
  have hattributes : ∀ use ∈ block.attributeUses.flatten,
      use.IsFrom block.names block.symbols := by
    intro use huse
    rw [flatten_attributeUses, List.mem_flatMap] at huse
    obtain ⟨a, ha, huse⟩ := huse
    have hattribute := (h.attributes a ha).isFrom use huse
    refine hattribute.mono (fun name hname => ?_) fun symbol hsymbol => ?_
    · rw [List.mem_singleton.1 hname]
      exact List.mem_append_right _ (List.mem_map_of_mem ha)
    · exact List.mem_append_right _ (List.mem_flatMap.2 ⟨a, ha, hsymbol⟩)
  simp only [uses, List.flatten_append, List.flatten_cons, List.forall_mem_append]
  refine ⟨⟨⟨⟨⟨isFrom_of_keyword (by decide), isFrom_of_mem_defined ?_⟩,
    isFrom_of_mem_defined ?_⟩, isFrom_of_mem_defined ?_, List.forall_mem_nil _⟩, hargs⟩,
    hattributes⟩
  · simp [names]
  · simp [names]
  · simp [names]

/-- The symbols of a class are used in it. -/
theorem IsSpoken.mem_uses (h : block.IsSpoken dialect) {symbol : Symbol}
    (hsymbol : symbol ∈ block.symbols) {use : Use} (huse : use ∈ symbol.uses) :
    use ∈ block.uses.flatten := by
  unfold uses
  rw [List.flatten_append, List.flatten_append, List.mem_append, List.mem_append]
  rcases List.mem_append.1 hsymbol with hsymbol | hsymbol
  · refine Or.inl (Or.inr ?_)
    unfold argsSymbols at hsymbol
    unfold argsUses
    cases hcases : block.tableArgs with
    | none =>
      rw [hcases] at hsymbol
      cases hsymbol
    | some args =>
      rw [hcases] at hsymbol
      rw [List.flatten_singleton, List.mem_append]
      exact Or.inr ((h.tableArgs args hcases).mem_uses_of_mem_symbols hsymbol huse)
  · obtain ⟨a, ha, hsymbol⟩ := List.mem_flatMap.1 hsymbol
    rw [flatten_attributeUses]
    exact Or.inr (List.mem_flatMap.2 ⟨a, ha, (h.attributes a ha).mem_uses hsymbol huse⟩)

end Spoken

end ClassBlock

/-! ## Table assignments -/

/-- Items of a body use what they use one after another. -/
theorem reads_bodyLines {awaited : List Char} {items : List String} {uses : List (List Use)}
    (h : List.Forall₂ (Reads awaited) items uses) :
    List.Forall₂ (Reads awaited) (bodyLines indent items) uses := by
  have hindent : IsGap indent := rfl
  have hcomma : Reads awaited "," [] := reads_gap (show IsGap "," from rfl)
  induction h with
  | nil => exact .nil
  | @cons item us items uses hitem hrest ih =>
    cases hrest with
    | nil => exact .cons (hitem.gap_append hindent) .nil
    | cons hnext hrest =>
      have hline := (hitem.gap_append hindent).append hcomma (breaks_cons (by decide +kernel) [])
      rw [List.append_nil] at hline
      exact .cons hline ih

namespace TableBlock

/-- What a table assignment uses. -/
def uses (block : TableBlock) : List Use :=
  nameUses block.name ++ nameUses "Table" ++
    (nameUses "metadata" ++ (block.items.map Expr.uses).flatten)

/-- A table assignment is read as its parts say. -/
theorem IsSpoken.reads {block : TableBlock} (h : block.IsSpoken dialect) :
    Reads [] (joinLines block.lines) block.uses := by
  have hfirst : Reads [')'] (quote block.table ++ ", metadata") (nameUses "metadata") := by
    have hname : Reads [')'] "metadata" (nameUses "metadata") := reads_name (by decide)
    exact (hname.gap_append (show IsGap ", " from rfl)).quote_append block.table
  have hitems : List.Forall₂ (Reads [')']) (block.items.map Expr.render)
      (block.items.map Expr.uses) :=
    forall₂_reads fun item hitem => (h.items item hitem).reads (by simp)
  have hbody : Reads [')'] (joinLines (bodyLines indent block.arguments))
      (nameUses "metadata" ++ (block.items.map Expr.uses).flatten) :=
    reads_joinLines (reads_bodyLines (.cons hfirst hitems))
  have hfeed : Reads [')'] "\n" [] := reads_gap (show IsGap "\n" from rfl)
  have hcall := ((hbody.gap_append (show IsGap "\n" from rfl)).append hfeed
    (breaks_cons (by decide +kernel) [])).round
  have htable : Reads [] "Table" (nameUses "Table") := reads_name (by decide)
  have hname : Reads [] (block.name ++ " = " ++ "Table")
      (nameUses block.name ++ nameUses "Table") :=
    (reads_name h.name).beside htable rfl (by decide +kernel)
  have hround : Breaks "(".toList := breaks_cons (by decide +kernel) []
  have hwhole := hname.append hcall ((hround.left (by decide) _).left (by simp) _)
  rw [joinLines_lines]
  simpa only [uses, String.append_assoc, List.append_nil,
    show " = Table" = " = " ++ "Table" from rfl] using hwhole

/-- The names that a table assignment gives to things. -/
def names (block : TableBlock) : List String :=
  ["metadata", block.name]

/-- A table assignment uses its own names and its symbols, and the kind of tables. -/
theorem IsSpoken.isFrom {block : TableBlock} (h : block.IsSpoken dialect) :
    ∀ use ∈ block.uses, use.IsFrom block.names (core "Table" :: block.symbols) := by
  have htable : ∀ use ∈ nameUses "Table",
      use.IsFrom block.names (core "Table" :: block.symbols) := by
    have hkind : core "Table" ∈ core "Table" :: block.symbols := List.mem_cons_self ..
    exact isFrom_of_mem_symbols hkind
  have hitems : ∀ use ∈ (block.items.map Expr.uses).flatten,
      use.IsFrom block.names (core "Table" :: block.symbols) := by
    intro use huse
    rw [← List.flatMap_def, List.mem_flatMap] at huse
    obtain ⟨item, hitem, huse⟩ := huse
    refine ((h.items item hitem).isFrom use huse).mono (List.nil_subset _) fun symbol hsymbol => ?_
    exact List.mem_cons_of_mem _ (List.mem_flatMap.2 ⟨item, hitem, hsymbol⟩)
  simp only [uses, List.forall_mem_append]
  refine ⟨⟨isFrom_of_mem_defined ?_, htable⟩, isFrom_of_mem_defined ?_, hitems⟩
  · simp [names]
  · simp [names]

/-- The symbols of a table assignment are used in it. -/
theorem IsSpoken.mem_uses {block : TableBlock} (h : block.IsSpoken dialect) {symbol : Symbol}
    (hsymbol : symbol ∈ block.symbols) {use : Use} (huse : use ∈ symbol.uses) :
    use ∈ block.uses := by
  obtain ⟨item, hitem, hsymbol⟩ := List.mem_flatMap.1 hsymbol
  have hmem : use ∈ item.uses := (h.items item hitem).mem_uses_of_mem_symbols hsymbol huse
  unfold uses
  rw [← List.flatMap_def]
  exact List.mem_append_right _ (List.mem_append_right _ (List.mem_flatMap.2 ⟨item, hitem, hmem⟩))

end TableBlock

end Code

end SchemaCodegen
