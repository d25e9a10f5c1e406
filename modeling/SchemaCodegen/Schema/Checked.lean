import SchemaCodegen.Schema.Fault

/-!
# Values with all their faults

Reading a record reads every field, so that all faults are found and not only the first. A checked
value is a value, or the faults that keep it from being one, in the order in which they are found.
-/

namespace SchemaCodegen.Schema

/-- A value, or the faults of the document that should have held it. -/
inductive Checked (α : Type) where
  /-- A value without faults. -/
  | ok (value : α)
  /-- The faults, in order. -/
  | faulty (faults : List Fault)

namespace Checked

variable {α β : Type}

/-- A single fault at the place that is read. -/
def fail (cause : Cause) : Checked α :=
  faulty [⟨[], cause⟩]

/-- The faults; none for a value. -/
def faults : Checked α → List Fault
  | ok _ => []
  | faulty faults => faults

/-- The value under a function. -/
def map (f : α → β) : Checked α → Checked β
  | ok value => ok (f value)
  | faulty faults => faulty faults

/-- A function applied to a value: the faults of both, those of the function first. -/
def ap : Checked (α → β) → Checked α → Checked β
  | ok f, ok value => ok (f value)
  | ok _, faulty faults => faulty faults
  | faulty faults, ok _ => faulty faults
  | faulty faults, faulty more => faulty (faults ++ more)

/-- A further step that needs the value, and that is taken only if there are no faults. -/
def andThen (x : Checked α) (f : α → Checked β) : Checked β :=
  match x with
  | ok value => f value
  | faulty faults => faulty faults

/-- The value, with further faults after its own. -/
def withFaults (x : Checked α) : List Fault → Checked α
  | [] => x
  | more => faulty (x.faults ++ more)

/-- The value, provided that it breaks no rule. -/
def provided (x : Checked α) (rule : α → Option BrokenRule) : Checked α :=
  x.andThen fun value =>
    match rule value with
    | none => ok value
    | some broken => fail (.broken broken)

/-- The same, as seen from one step further out. -/
def under (step : Step) : Checked α → Checked α
  | ok value => ok value
  | faulty faults => faulty (faults.map (Fault.under step))

/-- The values of a list of documents read one by one, each under its position. -/
def items {δ : Type} (read : δ → Checked α) : Nat → List δ → Checked (List α)
  | _, [] => ok []
  | position, d :: ds =>
    (((read d).under (.index position)).map List.cons).ap (items read (position + 1) ds)

/-- A value under a function is a value only of a value. -/
theorem map_eq_ok_iff {f : α → β} {x : Checked α} {b : β} :
    x.map f = ok b ↔ ∃ a, x = ok a ∧ f a = b := by
  cases x <;> simp [map]

/-- Applying a function gives a value exactly when there are a function and a value for it. -/
theorem ap_eq_ok_iff {f : Checked (α → β)} {x : Checked α} {b : β} :
    f.ap x = ok b ↔ ∃ g a, f = ok g ∧ x = ok a ∧ g a = b := by
  cases f <;> cases x <;> simp [ap]

/-- A further step gives a value exactly when it is taken and gives it. -/
theorem andThen_eq_ok_iff {x : Checked α} {f : α → Checked β} {b : β} :
    x.andThen f = ok b ↔ ∃ a, x = ok a ∧ f a = ok b := by
  cases x <;> simp [andThen]

/-- A place does not matter to a value. -/
theorem under_eq_ok_iff {step : Step} {x : Checked α} {a : α} :
    x.under step = ok a ↔ x = ok a := by
  cases x <;> simp [under]

/-- A value that breaks no rule is the value. -/
theorem provided_eq_ok_iff {x : Checked α} {rule : α → Option BrokenRule} {a : α} :
    x.provided rule = ok a ↔ x = ok a ∧ rule a = none := by
  cases x with
  | ok value =>
    simp only [provided, andThen, fail, ok.injEq]
    split
    · next h => exact ⟨fun e => ⟨ok.inj e, ok.inj e ▸ h⟩, fun e => congrArg ok e.1⟩
    · next h => exact ⟨nofun, fun e => by rw [e.1, e.2] at h; cases h⟩
  | faulty faults => simp [provided, andThen]

end Checked

end SchemaCodegen.Schema
