import SchemaCodegen.Proofs.Schema.Fields
import SchemaCodegen.Schema.Dump

/-!
# Proofs: the tables that a dump lists

A dump may list tables at two places: at its own key `tables`, and at that key of the mapping under
`schema`. Without such a mapping no table is lost, and a dump without the key is refused. With it
only the mapping counts. It may be without a list, which gives a schema without tables, and a list
beside it is not looked at.
-/

namespace SchemaCodegen.Schema

open SchemaCodegen.Text (Holding)

/-! ## Places of tables -/

/-- The mapping under `schema`, where there is one. -/
def nested? (dump : Document) : Option Document :=
  match dump.get? "schema" with
  | some (.mapping entries) => some (.mapping entries)
  | _ => none

/-- The items of the list of tables at a place. A set is a list too. -/
def listed? (place : Document) : Option (List Document) :=
  match place.get? "tables" with
  | some (.list items) => some items
  | some (.set items) => some items
  | _ => none

/-- The place that a schema is read from. -/
def taken (dump : Document) : Document :=
  (nested? dump).getD dump

/-- The places at which a dump may list tables. -/
def places (dump : Document) : List Document :=
  dump :: (nested? dump).toList

/-- The items are read as tables that stand, in this order, among the given ones. -/
def HoldsListed [Holding] (tables : List Table) (items : List Document) : Prop :=
  ∃ kept, List.Forall₂ (Reads readTable) items kept ∧ kept.Sublist tables

/-- No table that a dump lists is lost. -/
structure KeepsListed [Holding] (dump : Document) : Prop where
  /-- A dump that gives a schema has a list of tables. -/
  present : ∀ schema, ofDump dump = .ok schema →
    ∃ place ∈ places dump, (listed? place).isSome
  /-- The schema holds the tables of every list, in order. -/
  kept : ∀ schema, ofDump dump = .ok schema → ∀ place ∈ places dump, ∀ items ∈ listed? place,
    HoldsListed schema.tables items
  /-- A dump that has the key `tables` nowhere is refused. -/
  refused : (∀ place ∈ places dump, place.get? "tables" = none) →
    ∃ error, ofDump dump = .error error

/-! ## What is taken -/

variable {dump body : Document} {schema : Schema}

/-- A mapping under `schema` goes first, then the dump itself. -/
theorem dumpBody?_eq (dump : Document) : dumpBody? dump =
    (nested? dump).or (if (dump.get? "tables").isSome then some dump else none) := by
  rw [dumpBody?, nested?]
  rcases dump.get? "schema" with _ | document
  · rfl
  · cases document <;> rfl

theorem dumpBody?_of_nested (h : nested? dump = some body) : dumpBody? dump = some body := by
  rw [dumpBody?_eq, h, Option.some_or]

theorem dumpBody?_of_flat (h : nested? dump = none) :
    dumpBody? dump = if (dump.get? "tables").isSome then some dump else none := by
  rw [dumpBody?_eq, h, Option.none_or]

theorem ofDump_eq_ok_iff [Holding] (hbody : dumpBody? dump = some body) :
    ofDump dump = .ok schema ↔ read body = .ok schema := by
  rw [ofDump, hbody]
  cases hread : read body with
  | ok value => simp [hread]
  | faulty faults => simp [hread]

theorem hasOr_tables_of_read [Holding] (h : read body = .ok schema) :
    ∃ entries, body = .mapping entries ∧
      HasOr entries "tables" [] (GivesList (Reads readTable)) schema.tables := by
  obtain ⟨hrecord, _⟩ := Checked.provided_eq_ok_iff.1 h
  have hplain : ∀ entries, ∀ name ∈ schemaFields entries, Text.hasPrivate name = false := by
    intro entries
    rw [schemaFields]
    decide
  obtain ⟨entries, hbody, _, hfields⟩ :=
    (readRecord_eq_ok_iff hplain fun _ _ => Iff.rfl).1 hrecord
  obtain ⟨make, tables, hmake, htables, rfl⟩ := Checked.ap_eq_ok_iff.1 hfields
  obtain ⟨_, dialect, hmk, _, rfl⟩ := Checked.ap_eq_ok_iff.1 hmake
  obtain rfl := Checked.ok.inj hmk
  rw [optional_eq_ok_iff, reads_readList] at htables
  exact ⟨entries, hbody, htables⟩

/-- A schema has the tables of the list that it is read from, and none where the key is absent. -/
theorem tables_of_read [Holding] (h : read body = .ok schema) :
    body.get? "tables" = none ∧ schema.tables = [] ∨
      ∃ items, listed? body = some items ∧ List.Forall₂ (Reads readTable) items schema.tables := by
  obtain ⟨entries, rfl, htables⟩ := hasOr_tables_of_read h
  rcases htables with ⟨document, hentry, items, hdocument, hitems⟩ | ⟨hentry, htables⟩
  · right
    refine ⟨items, ?_, hitems⟩
    rw [listed?, Document.get?, hentry]
    rcases hdocument with rfl | rfl <;> rfl
  · exact Or.inl ⟨hentry, htables⟩

theorem listed?_eq_none (h : body.get? "tables" = none) : listed? body = none := by
  rw [listed?, h]

/-- What a place lists is held by the schema that is read from it. -/
theorem holdsListed_of_read [Holding] (h : read body = .ok schema) {items : List Document}
    (hitems : items ∈ listed? body) : HoldsListed schema.tables items := by
  rcases tables_of_read h with ⟨hkey, _⟩ | ⟨others, hothers, hreads⟩
  · rw [listed?_eq_none hkey] at hitems
    cases hitems
  · obtain rfl : others = items := Option.some.inj (hothers.symm.trans hitems)
    exact ⟨schema.tables, hreads, List.Sublist.refl _⟩

/-! ## What is kept -/

theorem ofDump_eq_noSchema_iff [Holding] :
    ofDump dump = .error .noSchema ↔ nested? dump = none ∧ dump.get? "tables" = none := by
  have hbody : ofDump dump = .error .noSchema ↔ dumpBody? dump = none := by
    rw [ofDump]
    cases dumpBody? dump with
    | none => simp
    | some body => cases hread : read body <;> simp [hread]
  rw [hbody]
  cases hnested : nested? dump with
  | none => simp [dumpBody?_of_flat hnested]
  | some body => simp [dumpBody?_of_nested hnested]

theorem read_taken [Holding] (h : ofDump dump = .ok schema) : read (taken dump) = .ok schema := by
  have hbody : dumpBody? dump = some (taken dump) := by
    cases hnested : nested? dump with
    | some body => rw [dumpBody?_of_nested hnested, taken, hnested, Option.getD_some]
    | none =>
      have hkey : dump.get? "tables" ≠ none := by
        intro hnone
        rw [ofDump_eq_noSchema_iff.2 ⟨hnested, hnone⟩] at h
        cases h
      rw [dumpBody?_of_flat hnested, if_pos (Option.ne_none_iff_isSome.1 hkey), taken, hnested,
        Option.getD_none]
  exact (ofDump_eq_ok_iff hbody).1 h

theorem keepsListed_of_flat [Holding] (hflat : nested? dump = none) : KeepsListed dump := by
  have hplaces : places dump = [dump] := by rw [places, hflat, Option.toList_none]
  have hread : ∀ schema, ofDump dump = .ok schema → read dump = .ok schema := by
    intro schema hschema
    have htaken := read_taken hschema
    rwa [taken, hflat, Option.getD_none] at htaken
  refine { present := ?_, kept := ?_, refused := ?_ }
  · -- present
    intro schema hschema
    rcases tables_of_read (hread schema hschema) with ⟨hnone, _⟩ | ⟨items, hitems, _⟩
    · rw [ofDump_eq_noSchema_iff.2 ⟨hflat, hnone⟩] at hschema
      cases hschema
    · exact ⟨dump, by simp [hplaces], by simp [hitems]⟩
  · -- kept
    intro schema hschema place hplace items hitems
    rw [hplaces, List.mem_singleton] at hplace
    rw [hplace] at hitems
    exact holdsListed_of_read (hread schema hschema) hitems
  · -- refused
    intro hnone
    exact ⟨.noSchema, ofDump_eq_noSchema_iff.2 ⟨hflat, hnone dump (by simp [hplaces])⟩⟩

theorem keepsListed_of_nested_iff [Holding] (hnested : nested? dump = some body) :
    KeepsListed dump ↔ ∀ schema, read body = .ok schema →
      ((listed? body).isSome ∨ (listed? dump).isSome) ∧
        ∀ items ∈ listed? dump, HoldsListed schema.tables items := by
  have hplaces : ∀ place, place ∈ places dump ↔ place = dump ∨ place = body := by
    intro place
    simp [places, hnested]
  have hread : ∀ schema, ofDump dump = .ok schema ↔ read body = .ok schema := fun schema =>
    ofDump_eq_ok_iff (dumpBody?_of_nested hnested)
  constructor
  · intro hkeeps schema hschema
    have hdump := (hread schema).2 hschema
    refine ⟨?_, hkeeps.kept schema hdump dump ((hplaces dump).2 (Or.inl rfl))⟩
    obtain ⟨place, hplace, hlisted⟩ := hkeeps.present schema hdump
    rcases (hplaces place).1 hplace with rfl | rfl
    · exact Or.inr hlisted
    · exact Or.inl hlisted
  · intro hkeeps
    refine { present := ?_, kept := ?_, refused := ?_ }
    · -- present
      intro schema hschema
      rcases (hkeeps schema ((hread schema).1 hschema)).1 with hbody | hdump
      · exact ⟨body, (hplaces body).2 (Or.inr rfl), hbody⟩
      · exact ⟨dump, (hplaces dump).2 (Or.inl rfl), hdump⟩
    · -- kept
      intro schema hschema place hplace items hitems
      have hbody := (hread schema).1 hschema
      rcases (hplaces place).1 hplace with rfl | rfl
      · exact (hkeeps schema hbody).2 items hitems
      · exact holdsListed_of_read hbody hitems
    · -- refused
      intro hnone
      -- a schema would come with a list, and a list needs the key
      cases hdump : ofDump dump with
      | error error => exact ⟨error, rfl⟩
      | ok schema =>
        have hbody := listed?_eq_none (hnone body ((hplaces body).2 (Or.inr rfl)))
        have hbeside := listed?_eq_none (hnone dump ((hplaces dump).2 (Or.inl rfl)))
        have hlisted := (hkeeps schema ((hread schema).1 hdump)).1
        simp [hbody, hbeside] at hlisted

/-- What becomes of the tables that a dump lists. -/
structure AccountsForListed [Holding] (dump : Document) : Prop where
  /-- The dump is refused for having no schema exactly if there is neither a mapping under `schema`
  nor the key `tables`. -/
  noSchema_iff :
    ofDump dump = .error .noSchema ↔ nested? dump = none ∧ dump.get? "tables" = none
  /-- A mapping under `schema` is read by itself. -/
  nested : ∀ body, nested? dump = some body → ∀ schema,
    ofDump dump = .ok schema ↔ read body = .ok schema
  /-- A schema has the tables of the list at the place that is taken, and none where the key is
  absent there. -/
  tables : ∀ schema, ofDump dump = .ok schema →
    (taken dump).get? "tables" = none ∧ schema.tables = [] ∨ ∃ items,
      listed? (taken dump) = some items ∧ List.Forall₂ (Reads readTable) items schema.tables
  /-- Without a mapping under `schema` no table is lost. -/
  flat : nested? dump = none → KeepsListed dump
  /-- With a mapping that gives a schema, no table is lost exactly if the mapping has a list or one
  stands beside it, and the tables of the latter are also in the mapping. -/
  keepsListed_iff : ∀ body, nested? dump = some body → (KeepsListed dump ↔
    ∀ schema, read body = .ok schema →
      ((listed? body).isSome ∨ (listed? dump).isSome) ∧
        ∀ items ∈ listed? dump, HoldsListed schema.tables items)

theorem accountsForListed_ofDump [Holding] (dump : Document) : AccountsForListed dump where
  noSchema_iff := ofDump_eq_noSchema_iff
  nested _ hnested _ := ofDump_eq_ok_iff (dumpBody?_of_nested hnested)
  tables _ hschema := tables_of_read (read_taken hschema)
  flat := keepsListed_of_flat
  keepsListed_iff _ := keepsListed_of_nested_iff

/-- An empty mapping under `schema` gives a schema without tables, also beside a list of tables. -/
theorem not_keepsListed_emptyMapping :
    ¬KeepsListed (.record [("schema", .record [])]) ∧
      ¬KeepsListed (.record [("schema", .record []),
        ("tables", .list [.record [("name", .text "t")]])]) := by
  constructor
  · intro hkeeps
    have hschema : ofDump (.record [("schema", .record [])]) = .ok ⟨.postgresql, []⟩ := rfl
    obtain ⟨error, herror⟩ := hkeeps.refused (by decide)
    rw [hschema] at herror
    cases herror
  · intro hkeeps
    have hschema : ofDump (.record [("schema", .record []),
        ("tables", .list [.record [("name", .text "t")]])]) = .ok ⟨.postgresql, []⟩ := rfl
    obtain ⟨kept, hreads, hkept⟩ := hkeeps.kept _ hschema _ (List.mem_cons_self ..) _ rfl
    rw [List.sublist_nil.1 hkept] at hreads
    cases hreads

end SchemaCodegen.Schema
