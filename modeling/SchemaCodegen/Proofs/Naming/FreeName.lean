import Mathlib.Data.List.Nodup
import Mathlib.Data.List.Perm.Subperm
import Mathlib.Logic.Function.Iterate
import SchemaCodegen.Proofs.Naming.Plain

/-!
# Proofs: claimed names are free and different

A name and its extensions by underscores are all different, so the search for a free one among them
cannot run out before the taken names do. Names that are claimed one after another therefore differ
from each other and from the names that were taken before.
-/

namespace SchemaCodegen.Naming

open SchemaCodegen.Text

/-! ## Extensions of a name -/

/-- The name with so many underscores at its end. -/
def extended (name : String) (n : Nat) : String :=
  (fun s => s.push '_')^[n] name

theorem length_extended (name : String) (n : Nat) :
    (extended name n).length = name.length + n := by
  induction n generalizing name with
  | zero => rfl
  | succ n ih =>
    have hpush : (name.push '_').length = name.length + 1 := String.length_push ..
    unfold extended at ih ⊢
    rw [Function.iterate_succ_apply, ih, hpush]
    omega

theorem extended_injective (name : String) : Function.Injective (extended name) := by
  intro m n h
  have hlength := congrArg String.length h
  rw [length_extended, length_extended] at hlength
  omega

/-- A search that ends at a taken name has found all extensions taken that it could look at. -/
theorem extended_mem_of_freeWithin_mem {taken : List String} {n : Nat} {name : String}
    (h : freeWithin n taken name ∈ taken) : ∀ k ≤ n, extended name k ∈ taken := by
  induction n generalizing name with
  | zero =>
    intro k hk
    rw [Nat.le_zero.1 hk]
    exact h
  | succ n ih =>
    rw [freeWithin] at h
    by_cases hname : name ∈ taken
    · rw [if_pos (List.contains_iff_mem.2 hname)] at h
      intro k hk
      cases k with
      | zero => exact hname
      | succ k => exact ih h k (by omega)
    · rw [if_neg (by simpa using hname)] at h
      exact absurd h hname

/-- A free name is not taken: more extensions were looked at than names are taken. -/
theorem freeName_not_mem (taken : List String) (name : String) : freeName taken name ∉ taken := by
  intro h
  have hall : ∀ k ≤ taken.length, extended name k ∈ taken := extended_mem_of_freeWithin_mem h
  have hnodup : ((List.range (taken.length + 1)).map (extended name)).Nodup :=
    List.nodup_range.map (extended_injective name)
  have hsub : (List.range (taken.length + 1)).map (extended name) ⊆ taken := by
    intro text htext
    obtain ⟨k, hk, rfl⟩ := List.mem_map.1 htext
    rw [List.mem_range] at hk
    exact hall k (by omega)
  have hlength := (hnodup.subperm hsub).length_le
  rw [List.length_map, List.length_range] at hlength
  omega

theorem freeName_eq_self {taken : List String} {name : String} (h : name ∉ taken) :
    freeName taken name = name := by
  unfold freeName
  cases taken.length with
  | zero => rfl
  | succ n => rw [freeWithin, if_neg (by simpa using h)]

/-! ## What a free name looks like -/

/-- A free name is the first extension that is not taken. -/
theorem exists_freeName_eq_extended (taken : List String) (name : String) :
    ∃ n, freeName taken name = extended name n ∧ ∀ k < n, extended name k ∈ taken := by
  have hwithin : ∀ fuel name, ∃ n, freeWithin fuel taken name = extended name n ∧
      ∀ k < n, extended name k ∈ taken := by
    intro fuel
    induction fuel with
    | zero => exact fun name => ⟨0, rfl, fun k hk => absurd hk (Nat.not_lt_zero k)⟩
    | succ fuel ih =>
      intro name
      rw [freeWithin]
      split
      · next hname =>
        obtain ⟨n, hn, htaken⟩ := ih (name.push '_')
        refine ⟨n + 1, hn, fun k hk => ?_⟩
        cases k with
        | zero => exact List.contains_iff_mem.1 hname
        | succ k => exact htaken k (by omega)
      · exact ⟨0, rfl, fun k hk => absurd hk (Nat.not_lt_zero k)⟩
  exact hwithin taken.length name

theorem freeName_eq_extended (taken : List String) (name : String) :
    ∃ n, freeName taken name = extended name n := by
  obtain ⟨n, hn, _⟩ := exists_freeName_eq_extended taken name
  exact ⟨n, hn⟩

theorem toList_extended (name : String) (n : Nat) :
    (extended name n).toList = name.toList ++ List.replicate n '_' := by
  induction n generalizing name with
  | zero => simp [extended]
  | succ n ih =>
    unfold extended at ih ⊢
    rw [Function.iterate_succ_apply, ih, String.toList_push, List.append_assoc,
      List.singleton_append, List.replicate_succ]

/-- A free name begins as the name that was asked for. -/
theorem toList_isPrefix_freeName (taken : List String) (name : String) :
    name.toList <+: (freeName taken name).toList := by
  obtain ⟨n, hn⟩ := freeName_eq_extended taken name
  rw [hn, toList_extended]
  exact List.prefix_append _ _

/-- A free name is the name that was asked for or ends with an underscore. -/
theorem freeName_eq_or (taken : List String) (name : String) :
    freeName taken name = name ∨ (freeName taken name).toList.getLast? = some '_' := by
  obtain ⟨n, hn⟩ := freeName_eq_extended taken name
  rw [hn, toList_extended]
  cases n with
  | zero => exact Or.inl rfl
  | succ n => exact Or.inr (by simp [List.replicate_succ'])

/-! ## Names claimed one after another -/

/-- Claimed names are free forms of names that were asked for. -/
theorem exists_of_mem_claimAll {taken names : List String} {free : String}
    (h : free ∈ (claimAll taken names).1) :
    ∃ name ∈ names, ∃ others, free = freeName others name := by
  induction names generalizing taken with
  | nil => cases h
  | cons name names ih =>
    rw [claimAll, List.mem_cons] at h
    rcases h with rfl | h
    · exact ⟨name, List.mem_cons_self .., taken, rfl⟩
    · obtain ⟨other, hother, others, rfl⟩ := ih h
      exact ⟨other, List.mem_cons_of_mem _ hother, others, rfl⟩

/-- No claimed name was taken before. -/
theorem not_mem_of_mem_claimAll {taken names : List String} :
    ∀ free ∈ (claimAll taken names).1, free ∉ taken := by
  induction names generalizing taken with
  | nil => exact List.forall_mem_nil _
  | cons name names ih =>
    rw [claimAll, List.forall_mem_cons]
    refine ⟨freeName_not_mem taken name, fun free hfree htaken => ?_⟩
    exact ih free hfree (List.mem_cons_of_mem _ htaken)

/-- A name that is asked for is claimed as it is, or another one has become it before, unless it was
taken from the start. -/
theorem mem_claimAll_of_mem {taken names : List String} {name : String} (h : name ∈ names)
    (hfree : name ∉ taken) : name ∈ (claimAll taken names).1 := by
  induction names generalizing taken with
  | nil => cases h
  | cons first names ih =>
    rw [claimAll, List.mem_cons]
    by_cases hfirst : name = freeName taken first
    · exact Or.inl hfirst
    · rcases List.mem_cons.1 h with rfl | h
      · exact absurd (freeName_eq_self hfree).symm hfirst
      · exact Or.inr (ih h (List.not_mem_cons_of_ne_of_not_mem hfirst hfree))

/-- Claimed names are all different. -/
theorem nodup_claimAll (taken names : List String) : (claimAll taken names).1.Nodup := by
  induction names generalizing taken with
  | nil => exact List.nodup_nil
  | cons name names ih =>
    rw [claimAll, List.nodup_cons]
    refine ⟨fun hmem => ?_, ih _⟩
    -- the first name was taken when the others were claimed
    exact not_mem_of_mem_claimAll _ hmem (List.mem_cons_self ..)

/-! ## How names of a kind look -/

theorem isLower_toUpper {c : Char} (h : c.isAlphanum = true) : c.toUpper.isLower = false := by
  refine forall_isAlphanum (p := fun c => c.isAlphanum = true → c.toUpper.isLower = false) ?_ h h
  decide

theorem isLower_of_mem_head?_capitals {words : List (List Char)}
    (h : ∀ word ∈ words, ∀ c ∈ word, isWordSign c = true) :
    ∀ c ∈ (words.flatMap capitalFirst).head?, c.isLower = false := by
  induction words with
  | nil => simp
  | cons word words ih =>
    rw [List.forall_mem_cons] at h
    cases word with
    | nil => exact ih h.2
    | cons first rest =>
      intro c hc
      obtain rfl : first.toUpper = c := by simpa [capitalFirst] using hc
      exact isLower_toUpper (isAlphanum_of_isWordSign (h.1 first (List.mem_cons_self ..)))

/-- Class names do not begin with a small letter. -/
theorem isLower_of_mem_head?_className (table : String) (useSingular : Bool) :
    ∀ c ∈ (className table useSingular).toList.head?, c.isLower = false := by
  have hhead := isLower_of_mem_head?_capitals (isWordSign_of_mem_chosenWords table useSingular)
  rw [className_eq]
  split
  · intro c hc
    obtain rfl : 'T' = c := Option.some.inj hc
    rfl
  · next first rest heq =>
    rw [heq] at hhead
    split
    · simp
    · simpa using hhead

/-- A free name begins as the name that was asked for, or with an underscore if there was none. -/
theorem forall_mem_head?_freeName {p : Char → Prop} (hunderscore : p '_') {name : String}
    (h : ∀ c ∈ name.toList.head?, p c) (taken : List String) :
    ∀ c ∈ (freeName taken name).toList.head?, p c := by
  obtain ⟨n, hn⟩ := freeName_eq_extended taken name
  rw [hn, toList_extended]
  cases hcs : name.toList with
  | nil =>
    intro c hc
    rw [List.nil_append] at hc
    rw [List.eq_of_mem_replicate (List.mem_of_mem_head? hc)]
    exact hunderscore
  | cons first rest => simpa [hcs] using h

/-- Variable names begin with a small letter and an underscore. -/
theorem isPrefix_variableName (table : String) : ['t', '_'] <+: (variableName table).toList := by
  rw [variableName, String.toList_append]
  exact List.prefix_append _ _

/-- No reserved name ends with an underscore. -/
theorem isReservedAttribute_of_getLast? {name : String}
    (h : name.toList.getLast? = some '_') : isReservedAttribute name = false := by
  have hall : ∀ word ∈ keywords ++ baseAttributes, word.toList.getLast? ≠ some '_' := by decide
  by_contra hreserved
  rw [Bool.not_eq_false, isReservedAttribute, isKeyword, Bool.or_eq_true, List.contains_iff_mem,
    List.contains_iff_mem, ← List.mem_append] at hreserved
  exact hall name hreserved h

theorem isKeyword_of_isReservedAttribute {name : String} (h : isReservedAttribute name = false) :
    isKeyword name = false :=
  (Bool.or_eq_false_iff.1 h).1

theorem isReservedAttribute_attributeName (column : String) :
    isReservedAttribute (attributeName column) = false := by
  rw [attributeName]
  split
  · next h => simpa using (Bool.and_eq_true_iff.1 h).2
  · dsimp only
    split
    · exact isReservedAttribute_of_getLast? (by simp)
    · next h => simpa using h

/-- An attribute has the name of its column, or a name with an underscore. -/
theorem attributeName_eq_or (column : String) :
    attributeName column = column ∨ '_' ∈ (attributeName column).toList := by
  rw [attributeName]
  split
  · exact Or.inl rfl
  · dsimp only
    split
    · exact Or.inr (by simp)
    · by_cases hword : ∀ c ∈ column.toList, isWordChar c = true
      · -- nothing is replaced
        have hkept : underscored column.toList = column.toList := by
          rw [underscored, List.map_congr_left fun c hc => if_pos (hword c hc), List.map_id']
        rw [hkept]
        rcases guardStart_eq_or column.toList with he | he
        · exact Or.inl (by rw [he, String.ofList_toList])
        · exact Or.inr (by simp [he])
      · push Not at hword
        obtain ⟨c, hc, hreplaced⟩ := hword
        have hmem : '_' ∈ underscored column.toList :=
          List.mem_map.2 ⟨c, hc, if_neg hreplaced⟩
        refine Or.inr ?_
        rw [String.toList_ofList]
        rcases guardStart_eq_or (underscored column.toList) with he | he
        · rwa [he]
        · rw [he]
          exact List.mem_cons_self ..

theorem isAlphanum_of_isDigit {c : Char} (h : c.isDigit = true) : c.isAlphanum = true := by
  unfold Char.isAlphanum
  rw [h, Bool.or_true]

theorem isDigit_of_mem_head?_guardStart (name : List Char) :
    ∀ c ∈ (guardStart name).head?, c.isDigit = false := by
  have hsigns : ∀ {c : Char}, c.isDigit = true → isDigitChar c = true := by
    intro c h
    refine forall_isAlphanum (p := fun c => c.isDigit = true → isDigitChar c = true) ?_
      (isAlphanum_of_isDigit h) h
    decide
  cases name with
  | nil => exact fun c hc => Option.some.inj hc ▸ rfl
  | cons first rest =>
    rw [guardStart]
    split
    · exact fun c hc => Option.some.inj hc ▸ rfl
    · next h =>
      intro c hc
      rw [← Option.some.inj hc, ← Bool.not_eq_true]
      exact fun hdigit => h (hsigns hdigit)

theorem isDigit_of_mem_head?_of_isIdentifierOf {name : List Char} (h : isIdentifierOf name = true) :
    ∀ c ∈ name.head?, c.isDigit = false := by
  have hstarts : ∀ {c : Char}, c.isDigit = true → isIdentifierStart c = false := by
    intro c h
    refine forall_isAlphanum (p := fun c => c.isDigit = true → isIdentifierStart c = false) ?_
      (isAlphanum_of_isDigit h) h
    decide
  cases name with
  | nil => simp
  | cons first rest =>
    rw [isIdentifierOf, Bool.and_eq_true] at h
    intro c hc
    rw [← Option.some.inj hc, ← Bool.not_eq_true]
    intro hdigit
    rw [hstarts hdigit] at h
    exact Bool.false_ne_true h.1

theorem isDigit_of_mem_head?_attributeName (column : String) :
    ∀ c ∈ (attributeName column).toList.head?, c.isDigit = false := by
  have hguard := isDigit_of_mem_head?_guardStart (underscored column.toList)
  rw [attributeName]
  split
  · next h => exact isDigit_of_mem_head?_of_isIdentifierOf (Bool.and_eq_true_iff.1 h).1
  · dsimp only
    split
    · rw [String.toList_push, String.toList_ofList, List.head?_append]
      cases hhead : (guardStart (underscored column.toList)).head? with
      | none => exact fun c hc => Option.some.inj hc ▸ rfl
      | some first =>
        rw [hhead] at hguard
        exact hguard
    · rwa [String.toList_ofList]

theorem isReservedAttribute_freeName {name : String} (h : isReservedAttribute name = false)
    (taken : List String) : isReservedAttribute (freeName taken name) = false := by
  rcases freeName_eq_or taken name with he | he
  · rwa [he]
  · exact isReservedAttribute_of_getLast? he

end SchemaCodegen.Naming
