import SchemaCodegen.Proofs.Text.Case

/-!
# Proofs: a small form is its own small form

No character that comes from making a text small has another small form. Where the mapping is
regular this is read off the runs of its table: the images of a run lie apart from the members of
every run, or between them. So a text is made small once and for all.
-/

namespace SchemaCodegen.Text

/-- A character that stays as it is when a text is made small, wherever it stands. -/
structure IsSmall (c : Char) : Prop where
  /-- It is not the capital sigma, whose small form depends on its place. -/
  ne_sigma : c ≠ 'Σ'
  /-- It is its own small form. -/
  lowerChar_eq : lowerChar c = [c]

/-! ## Images of runs -/

/-- The first image of the run. -/
def CaseRun.imageFirst (run : CaseRun) : Nat :=
  (run.first + run.shift).toNat

/-- The last image of the run. -/
def CaseRun.imageLast (run : CaseRun) : Nat :=
  (run.last + run.shift).toNat

/-- Whether no character of a range is a member of the run. Of a sparse range only every second
character counts, from the first on. -/
def CaseRun.avoids (run : CaseRun) (first last : Nat) (sparse : Bool) : Bool :=
  last.blt run.first || run.last.blt first ||
    (sparse && run.step == 2 && (first + run.first) % 2 == 1)

/-- Whether the images of the run have no small form but themselves: no run has them, and they are
neither the dotted capital I nor the capital sigma. -/
def CaseRun.isSettled (run : CaseRun) : Bool :=
  lowerRuns.all (·.avoids run.imageFirst run.imageLast (run.step == 2 || run.first == run.last)) &&
    [0x130, 0x3A3].all fun n => run.imageLast.blt n || n.blt run.imageFirst

theorem isSettled_of_mem_lowerRuns {run : CaseRun} (h : run ∈ lowerRuns) :
    run.isSettled = true := by
  have hall : lowerRuns.all CaseRun.isSettled = true := by decide +kernel
  exact List.all_eq_true.1 hall run h

theorem CaseRun.contains_eq_false_of_avoids {run other : CaseRun}
    (h : other.avoids run.imageFirst run.imageLast (run.step == 2 || run.first == run.last) = true)
    {n m : Nat} (hn : run.contains n = true) (hm : (m : Int) = n + run.shift)
    (hfirst : 0 ≤ run.first + run.shift) : other.contains m = false := by
  rw [Bool.eq_false_iff]
  intro hother
  simp only [contains, Bool.and_eq_true, decide_eq_true_eq, beq_iff_eq] at hn hother
  simp only [avoids, imageFirst, imageLast, Nat.blt_eq, Bool.or_eq_true, Bool.and_eq_true,
    beq_iff_eq] at h
  obtain ⟨⟨hle, hlast⟩, hstep⟩ := hn
  obtain ⟨⟨hotherFirst, hotherLast⟩, hotherStep⟩ := hother
  rcases h with (h | h) | ⟨⟨h | h, htwo⟩, hodd⟩
  · omega
  · omega
  · rw [h] at hstep
    rw [htwo] at hotherStep
    omega
  · rw [htwo] at hotherStep
    omega

/-! ## Characters -/

theorem isSmall_of_lt {c : Char} (hc : c.toNat < 128) (h : c.toLower = c) : IsSmall c := by
  refine ⟨?_, by rw [lowerChar, if_pos hc, h]⟩
  rintro rfl
  exact absurd hc (by decide)

theorem isSmall_toLower {c : Char} (hc : c.toNat < 128) : IsSmall c.toLower := by
  have hsmall : c.toLower.toNat < 128 ∧ c.toLower.toLower = c.toLower :=
    of_forall_lt (p := fun c => c.toLower.toNat < 128 ∧ c.toLower.toLower = c.toLower) (by decide) hc
  exact isSmall_of_lt hsmall.1 hsmall.2

/-- A character beyond U+007F is small where the tables say nothing of it. -/
theorem isSmall_of_le {c : Char} (hc : 128 ≤ c.toNat) (hsigma : c ≠ 'Σ')
    (hdotted : c.toNat ≠ 0x130) (hruns : ∀ run ∈ lowerRuns, run.contains c.toNat = false) :
    IsSmall c := by
  have hlookup : lowerExpansions.lookup c.toNat = none := by
    simp [lowerExpansions, List.lookup_cons, beq_eq_false_iff_ne.2 hdotted]
  have hfind : lowerRuns.find? (·.contains c.toNat) = none := by
    rw [List.find?_eq_none]
    exact fun run hrun => by simp [hruns run hrun]
  refine ⟨hsigma, ?_⟩
  rw [lowerChar, if_neg (by omega), mapCase, hlookup]
  simp only [shiftBy, hfind, Char.ofNat_toNat]

/-- The image of a member of a run is small. -/
theorem CaseRun.isSmall_image {run : CaseRun} (hrun : run ∈ lowerRuns) {n : Nat}
    (hn : run.contains n = true) : IsSmall (Char.ofNat (n + run.shift).toNat) := by
  have hfar := isFar_of_mem_lowerRuns hrun
  have hsettled := isSettled_of_mem_lowerRuns hrun
  simp only [isFar, Bool.and_eq_true, Bool.or_eq_true, decide_eq_true_eq, beq_iff_eq] at hfar
  simp only [isSettled, List.all_cons, List.all_nil, Bool.and_true, Bool.and_eq_true,
    Bool.or_eq_true, Nat.blt_eq, imageFirst, imageLast, List.all_eq_true] at hsettled
  obtain ⟨havoids, hdotted, hsigma⟩ := hsettled
  have hplace := hn
  simp only [contains, Bool.and_eq_true, decide_eq_true_eq] at hplace
  obtain ⟨⟨hfirst, hlast⟩, _⟩ := hplace
  obtain ⟨m, hm⟩ : ∃ m : Nat, (m : Int) = n + run.shift := ⟨(n + run.shift).toNat, by omega⟩
  rw [← hm, Int.toNat_natCast]
  have hvalid : m.isValidChar := by
    unfold Nat.isValidChar
    omega
  have hnat : (Char.ofNat m).toNat = m := by
    rw [Char.ofNat, dif_pos hvalid]
    rfl
  by_cases hlt : m < 128
  · -- only the Kelvin sign has an image below U+0080
    obtain rfl : m = 107 := by omega
    exact isSmall_of_lt (by decide) (by decide)
  · refine isSmall_of_le (by omega) ?_ (by omega) ?_
    · intro heq
      have hcode : m = 0x3A3 := by rw [← hnat, heq]; rfl
      omega
    · intro other hother
      rw [hnat]
      exact contains_eq_false_of_avoids (havoids other hother) hn hm (by omega)

/-- The small form of a character is made of small characters. -/
theorem isSmall_of_mem_lowerChar {c : Char} (hsigma : c ≠ 'Σ') : ∀ d ∈ lowerChar c, IsSmall d := by
  by_cases hc : c.toNat < 128
  · rw [lowerChar, if_pos hc]
    exact List.forall_mem_singleton.2 (isSmall_toLower hc)
  · have hle : 128 ≤ c.toNat := by omega
    rw [lowerChar, if_neg hc, mapCase]
    split
    · next codes hcodes =>
      -- the dotted capital I becomes a small i with the dot as a mark of its own
      obtain ⟨front, back, hsplit, _⟩ := List.lookup_eq_some_iff.1 hcodes
      have hmem : (c.toNat, codes) ∈ lowerExpansions := by simp [hsplit]
      obtain ⟨_, rfl⟩ := Prod.mk.inj (List.mem_singleton.1 hmem)
      refine List.forall_mem_cons.2 ⟨isSmall_of_lt (by decide) (by decide), ?_⟩
      refine List.forall_mem_singleton.2 ⟨by decide, ?_⟩
      decide +kernel
    · next hlookup =>
      refine List.forall_mem_singleton.2 ?_
      rw [shiftBy]
      split
      · next run hrun =>
        have hcontains : run.contains c.toNat = true := by simpa using List.find?_some hrun
        exact CaseRun.isSmall_image (List.mem_of_find?_eq_some hrun) hcontains
      · next hnone =>
        rw [Char.ofNat_toNat]
        refine isSmall_of_le hle hsigma ?_ ?_
        · intro hdotted
          rw [hdotted] at hlookup
          cases hlookup
        · intro run hrun
          simpa using List.find?_eq_none.1 hnone run hrun

/-! ## Texts -/

theorem isSmall_of_mem_lowerAfter {cased : Bool} {cs : List Char} :
    ∀ d ∈ lowerAfter cased cs, IsSmall d := by
  induction cs generalizing cased with
  | nil => exact List.forall_mem_nil _
  | cons c cs ih =>
    rw [lowerAfter]
    refine List.forall_mem_append.2 ⟨?_, ih⟩
    split
    · refine List.forall_mem_singleton.2 ?_
      split
      · exact ⟨by decide, by decide +kernel⟩
      · exact ⟨by decide, by decide +kernel⟩
    · next hsigma => exact isSmall_of_mem_lowerChar (by simpa using hsigma)

/-- A text of small characters is its own small form. -/
theorem lowerAfter_eq_self {cs : List Char} (h : ∀ c ∈ cs, IsSmall c) (cased : Bool) :
    lowerAfter cased cs = cs := by
  induction cs generalizing cased with
  | nil => rfl
  | cons c cs ih =>
    rw [List.forall_mem_cons] at h
    rw [lowerAfter, if_neg (by simpa using h.1.ne_sigma), h.1.lowerChar_eq, ih h.2,
      List.singleton_append]

/-- The small form of a text is its own small form. -/
theorem lower_lower (text : String) : lower (lower text) = lower text := by
  unfold lower
  rw [String.toList_ofList, lowerAfter_eq_self isSmall_of_mem_lowerAfter]

end SchemaCodegen.Text
