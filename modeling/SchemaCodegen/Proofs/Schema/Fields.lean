import Mathlib.Data.List.Forall2
import SchemaCodegen.Proofs.Schema.Reading

/-!
# Proofs: which documents a record is read from

Reading a record computes with faults. Here it is said without them which documents give which
values: a mapping gives a record when all its keys are known and each field gives its value, is
absent and has a value of its own, or is null. A reader built from the combinators for records gives
a value exactly where these relations hold.
-/

namespace SchemaCodegen.Schema

open SchemaCodegen.Text

variable {α β : Type}

/-! ## Relations between documents and values -/

/-- The document is read as the value. -/
def Reads (read : Document → Checked α) (document : Document) (a : α) : Prop :=
  read document = .ok a

/-- The field is there and gives the value. -/
def Has (entries : Entries) (name : String) (Gives : Document → α → Prop) (a : α) : Prop :=
  ∃ document, Document.entry? entries name = some document ∧ Gives document a

/-- The field gives the value, or is not there and has the value by itself. -/
def HasOr (entries : Entries) (name : String) (absent : α) (Gives : Document → α → Prop) (a : α) :
    Prop :=
  Has entries name Gives a ∨ Document.entry? entries name = none ∧ a = absent

/-- The document gives the value, or is null and there is no value. -/
def GivesOption (Gives : Document → α → Prop) (document : Document) (value : Option α) : Prop :=
  document = .null ∧ value = none ∨ document ≠ .null ∧ ∃ a, value = some a ∧ Gives document a

/-- The items of the document give the values one by one. -/
def GivesList (Gives : Document → α → Prop) (document : Document) (values : List α) : Prop :=
  ∃ items, (document = .list items ∨ document = .set items) ∧ List.Forall₂ Gives items values

/-- All keys are texts that are known. -/
def OnlyKnown (known : List String) (entries : Entries) : Prop :=
  ∀ entry ∈ entries, ∃ name ∈ known, entry.1 = .text name

/-- The document is a mapping with known keys only, and its entries give the value. -/
def GivesRecord (known : Entries → List String) (Gives : Entries → α → Prop) (document : Document)
    (a : α) : Prop :=
  ∃ entries, document = .mapping entries ∧ OnlyKnown (known entries) entries ∧ Gives entries a

/-! ## Fields -/

section Readers

variable {read : Document → Checked α} {entries : Entries} {name : String}

theorem required_eq_ok_iff {a : α} :
    required entries name read = .ok a ↔ Has entries name (Reads read) a := by
  unfold required Has Reads
  cases Document.entry? entries name with
  | none => simp [Checked.fail, Checked.under]
  | some document => simp [Checked.under_eq_ok_iff]

theorem optional_eq_ok_iff {absent a : α} :
    optional entries name absent read = .ok a ↔ HasOr entries name absent (Reads read) a := by
  unfold optional HasOr Has Reads
  cases Document.entry? entries name with
  | none => simp [eq_comm]
  | some document => simp [Checked.under_eq_ok_iff]

theorem reads_readNullable : Reads (readNullable read) = GivesOption (Reads read) := by
  funext document value
  unfold Reads readNullable GivesOption
  split
  · simp [eq_comm]
  · next hne =>
    have hne : document ≠ .null := hne
    simp only [Checked.map_eq_ok_iff, hne, false_and, not_false_eq_true, true_and, false_or, ne_eq]
    exact propext (exists_congr fun a => by rw [and_comm, eq_comm])

theorem nullable_eq_ok_iff {value : Option α} :
    nullable entries name read = .ok value ↔
      HasOr entries name none (GivesOption (Reads read)) value := by
  rw [nullable, optional_eq_ok_iff, reads_readNullable]

theorem items_eq_ok_iff {position : Nat} {items : List Document} {values : List α} :
    Checked.items read position items = .ok values ↔ List.Forall₂ (Reads read) items values := by
  induction items generalizing position values with
  | nil => simp [Checked.items, eq_comm]
  | cons item items ih =>
    simp only [Checked.items, Checked.ap_eq_ok_iff, Checked.map_eq_ok_iff,
      Checked.under_eq_ok_iff, ih, List.forall₂_cons_left_iff, Reads]
    constructor
    · rintro ⟨_, rest, ⟨a, ha, rfl⟩, hrest, rfl⟩
      exact ⟨a, rest, ha, hrest, rfl⟩
    · rintro ⟨a, rest, ha, hrest, rfl⟩
      exact ⟨_, rest, ⟨a, ha, rfl⟩, hrest, rfl⟩

theorem reads_readList : Reads (readList read) = GivesList (Reads read) := by
  funext document values
  rw [Reads, GivesList]
  cases document with
  | list items => simp [readList, items_eq_ok_iff]
  | set items => simp [readList, items_eq_ok_iff]
  | _ => simp [readList, Checked.fail]

end Readers

/-! ## Records -/

/-- A key is no fault exactly when it is a known text. -/
theorem keyFault_eq_none_iff [Holding] {known : List String} {entry : Document × Document} :
    keyFault known entry = none ↔ ∃ name ∈ known, entry.1 = .text name := by
  unfold keyFault
  cases hkey : entry.1 with
  | text name => simp
  | bytes bytes =>
    refine iff_of_false ?_ (by simp)
    dsimp only
    split <;> nofun
  | _ => simp

theorem extraFaults_eq_nil_iff [Holding] {known : List String} {entries : Entries} :
    extraFaults known entries = [] ↔ OnlyKnown known entries := by
  rw [extraFaults, List.filterMap_eq_nil_iff]
  exact forall₂_congr fun _ _ => keyFault_eq_none_iff

/-- A record is read from the mappings with known keys that its fields are read from, provided that
the known keys are without private characters. -/
theorem readRecord_eq_ok_iff [Holding] {kind : String} {known : Entries → List String}
    {fields : Entries → Checked α} {Gives : Entries → α → Prop}
    (hplain : ∀ entries, ∀ name ∈ known entries, hasPrivate name = false)
    (hfields : ∀ entries a, fields entries = .ok a ↔ Gives entries a) {document : Document}
    {a : α} :
    readRecord kind known fields document = .ok a ↔ GivesRecord known Gives document a := by
  unfold GivesRecord
  cases document with
  | mapping entries =>
    have hmapping : readRecord kind known fields (.mapping entries) = .ok a ↔
        OnlyKnown (known entries) entries ∧ Gives entries a := by
      rw [readRecord]
      split
      · next hbroken =>
        refine iff_of_false Checked.fail_ne_ok fun ⟨hknown, _⟩ => ?_
        obtain ⟨entry, hentry, hkey⟩ := List.any_eq_true.1 hbroken
        obtain ⟨name, hname, htext⟩ := hknown entry hentry
        rw [htext, isBrokenKey, hasLoneHalf_eq_false (hplain entries name hname)] at hkey
        cases hkey
      · rw [Checked.withFaults_eq_ok_iff, extraFaults_eq_nil_iff, hfields, and_comm]
    simp [hmapping]
  | _ => simp [readRecord, Checked.fail]

/-! ## Conditions on the values -/

theorem has_and_iff {entries : Entries} {name : String} {Gives : Document → α → Prop}
    {p : α → Prop} {a : α} :
    Has entries name (fun document a => Gives document a ∧ p a) a ↔
      Has entries name Gives a ∧ p a := by
  simp only [Has, ← and_assoc, exists_and_right]

theorem givesRecord_and_iff {known : Entries → List String} (Gives : Entries → α → Prop)
    (p : α → Prop) {document : Document} {a : α} :
    GivesRecord known (fun entries a => Gives entries a ∧ p a) document a ↔
      GivesRecord known Gives document a ∧ p a := by
  simp only [GivesRecord, ← and_assoc, exists_and_right]

section Lists

variable {entries : Entries} {name : String} {Gives : Document → β → Prop}

/-- What the items give, the values satisfy. -/
theorem HasOr.forall_mem {p : β → Prop} {values : List β}
    (h : HasOr entries name [] (GivesList Gives) values)
    (hp : ∀ document b, Gives document b → p b) : ∀ b ∈ values, p b := by
  rcases h with ⟨document, _, items, _, hitems⟩ | ⟨_, rfl⟩
  · clear * - hitems hp
    induction hitems with
    | nil => exact List.forall_mem_nil p
    | cons hgives _ ih => exact List.forall_mem_cons.2 ⟨hp _ _ hgives, ih⟩
  · exact List.forall_mem_nil p

theorem forall₂_and_iff {p : β → Prop} {items : List Document} {values : List β} :
    List.Forall₂ (fun document b => Gives document b ∧ p b) items values ↔
      List.Forall₂ Gives items values ∧ ∀ b ∈ values, p b := by
  induction values generalizing items with
  | nil => simp
  | cons b values ih =>
    simp only [List.forall₂_cons_right_iff, List.forall_mem_cons, ih]
    constructor
    · rintro ⟨item, rest, ⟨hgives, hb⟩, ⟨hrest, hvalues⟩, rfl⟩
      exact ⟨⟨item, rest, hgives, hrest, rfl⟩, hb, hvalues⟩
    · rintro ⟨⟨item, rest, hgives, hrest, rfl⟩, hb, hvalues⟩
      exact ⟨item, rest, ⟨hgives, hb⟩, ⟨hrest, hvalues⟩, rfl⟩

/-- A condition on the values of a list can be taken out of it. -/
theorem hasOr_givesList_and_iff {p : β → Prop} {values : List β} :
    HasOr entries name [] (GivesList fun document b => Gives document b ∧ p b) values ↔
      HasOr entries name [] (GivesList Gives) values ∧ ∀ b ∈ values, p b := by
  simp only [HasOr, Has, GivesList, forall₂_and_iff]
  constructor
  · rintro (⟨document, hentry, items, hdocument, hgives, hp⟩ | ⟨hnone, rfl⟩)
    · exact ⟨.inl ⟨document, hentry, items, hdocument, hgives⟩, hp⟩
    · exact ⟨.inr ⟨hnone, rfl⟩, List.forall_mem_nil p⟩
  · rintro ⟨⟨document, hentry, items, hdocument, hgives⟩ | ⟨hnone, rfl⟩, hp⟩
    · exact .inl ⟨document, hentry, items, hdocument, hgives, hp⟩
    · exact .inr ⟨hnone, rfl⟩

/-- So can a function on them. -/
theorem hasOr_givesList_map_iff {f : α → β} {values : List α} :
    HasOr entries name [] (GivesList Gives) (values.map f) ↔
      HasOr entries name [] (GivesList fun document a => Gives document (f a)) values := by
  simp only [HasOr, Has, GivesList, List.forall₂_map_right_iff, List.map_eq_nil_iff]

end Lists

end SchemaCodegen.Schema
