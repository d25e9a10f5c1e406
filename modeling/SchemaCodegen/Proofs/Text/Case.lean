import Mathlib.Data.List.Infix
import SchemaCodegen.Text.Case

/-!
# Proofs: words in any letter case

Beyond U+007F the only characters whose small form begins with an ASCII character are the dotted
capital I and the Kelvin sign. So the small form of a text begins with an ASCII word without these
two letters exactly when the text begins with that word in some mixture of ASCII letters.
-/

namespace SchemaCodegen.Text

/-! ## ASCII characters and others -/

/-- A property of the characters below U+0080 is one of every character there. -/
theorem of_forall_lt {p : Char → Prop} (h : ∀ n < 128, p (Char.ofNat n)) {c : Char}
    (hc : c.toNat < 128) : p c := by
  simpa using h c.toNat hc

/-- Whether a character can come from an ASCII character only when a text is made small. -/
def isPlainSmall (c : Char) : Bool :=
  c.toNat < 128 && c != 'i' && c != 'k'

/-- Whether the images of a run are characters, and no ASCII ones but the small k. -/
def CaseRun.isFar (run : CaseRun) : Bool :=
  (128 ≤ run.first + run.shift || (run.first == run.last && run.first + run.shift == 107)) &&
    (run.last + run.shift < 0xD800 ||
      (0xE000 ≤ run.first + run.shift && run.last + run.shift < 0x110000))

theorem isFar_of_mem_lowerRuns {run : CaseRun} (h : run ∈ lowerRuns) : run.isFar = true := by
  have hall : lowerRuns.all CaseRun.isFar = true := by decide +kernel
  exact List.all_eq_true.1 hall run h

theorem isPlainSmall_ofNat {n : Nat} (hvalid : n.isValidChar) (h : 128 ≤ n ∨ n = 107) :
    isPlainSmall (Char.ofNat n) = false := by
  have hnat : (Char.ofNat n).toNat = n := by
    rw [Char.ofNat, dif_pos hvalid]
    rfl
  rcases h with h | rfl
  · simp [isPlainSmall, hnat, Nat.not_lt.2 h]
  · decide

/-- The image of a character in a run is not plain. -/
theorem CaseRun.isPlainSmall_image {run : CaseRun} (hfar : run.isFar = true) {n : Nat}
    (hn : run.contains n = true) : isPlainSmall (Char.ofNat (n + run.shift).toNat) = false := by
  simp only [isFar, Bool.and_eq_true, Bool.or_eq_true, decide_eq_true_eq, beq_iff_eq] at hfar
  simp only [contains, Bool.and_eq_true, decide_eq_true_eq] at hn
  obtain ⟨⟨hfirst, hlast⟩, _⟩ := hn
  refine isPlainSmall_ofNat ?_ ?_
  · unfold Nat.isValidChar
    omega
  · omega

/-- The small form of a character beyond U+007F begins with one that is not plain. -/
theorem exists_lowerChar_eq_cons {c : Char} (hc : 128 ≤ c.toNat) :
    ∃ d image, lowerChar c = d :: image ∧ isPlainSmall d = false := by
  rw [lowerChar, if_neg (by omega), mapCase]
  split
  · next codes hcodes =>
    -- The dotted capital I is the only character with an image of its own.
    obtain ⟨front, back, hsplit, _⟩ := List.lookup_eq_some_iff.1 hcodes
    have hmem : (c.toNat, codes) ∈ lowerExpansions := by simp [hsplit]
    obtain ⟨_, rfl⟩ := Prod.mk.inj (List.mem_singleton.1 hmem)
    exact ⟨'i', [Char.ofNat 0x307], rfl, rfl⟩
  · rw [shiftBy]
    split
    · next run hrun =>
      have hfar := isFar_of_mem_lowerRuns (List.mem_of_find?_eq_some hrun)
      have hcontains : run.contains c.toNat = true := by simpa using List.find?_some hrun
      exact ⟨_, [], rfl, run.isPlainSmall_image hfar hcontains⟩
    · refine ⟨c, [], by rw [Char.ofNat_toNat], ?_⟩
      simp [isPlainSmall, Nat.not_lt.2 hc]

theorem toLower_of_le {c : Char} (hc : 128 ≤ c.toNat) : c.toLower = c := by
  have hnot : ¬ c.val ≤ 'Z'.val := by
    rw [UInt32.le_iff_toNat_le, Char.toNat_val]
    exact fun h => absurd (hc.trans h) (by decide)
  exact dif_neg fun h => hnot h.2

/-- What is no small letter comes from itself only. -/
theorem eq_of_toLower_eq {c d : Char} (h : c.toLower = d) (hd : d.isLower = false) : c = d := by
  by_cases hc : c.toNat < 128
  · have hself : c.toLower.isLower = false → c.toLower = c :=
      of_forall_lt (p := fun c => c.toLower.isLower = false → c.toLower = c) (by decide) hc
    rw [← h, hself (by rw [h, hd])]
  · rwa [toLower_of_le (by omega)] at h

/-! ## Small forms of texts -/

/-- An ASCII character has one small form, that of ASCII. -/
theorem lowerAfter_cons_of_lt {c : Char} (hc : c.toNat < 128) (cased : Bool) (cs : List Char) :
    lowerAfter cased (c :: cs) =
      c.toLower :: lowerAfter (if isCaseIgnorable c then cased else isCased c) cs := by
  have hsigma : c ≠ 'Σ' := by
    rintro rfl
    exact absurd hc (by decide)
  simp [lowerAfter, hsigma, lowerChar, hc]

/-- The small form of an ASCII text is that of ASCII. -/
theorem lowerAfter_of_forall_lt {cs : List Char} (h : ∀ c ∈ cs, c.toNat < 128) (cased : Bool) :
    lowerAfter cased cs = cs.map Char.toLower := by
  induction cs generalizing cased with
  | nil => rfl
  | cons c cs ih =>
    rw [List.forall_mem_cons] at h
    rw [lowerAfter_cons_of_lt h.1, ih h.2, List.map_cons]

/-- No other character begins a plain word in its small form. -/
theorem exists_lowerAfter_cons_of_le {c : Char} (hc : 128 ≤ c.toNat) (cased : Bool)
    (cs : List Char) :
    ∃ d image, lowerAfter cased (c :: cs) = d :: image ∧ isPlainSmall d = false := by
  obtain ⟨d, image, himage, hd⟩ : ∃ d image,
      (if c == 'Σ' then [if cased && !casedNext cs then 'ς' else 'σ'] else lowerChar c) =
        d :: image ∧ isPlainSmall d = false := by
    split
    · refine ⟨_, [], rfl, ?_⟩
      split <;> rfl
    · exact exists_lowerChar_eq_cons hc
  exact ⟨d, _, by rw [lowerAfter, himage, List.cons_append], hd⟩

/-- The small form of a text begins with a plain word exactly when the text begins with the word in
some letter case. -/
theorem isPrefix_lowerAfter_iff {word cs : List Char} {cased : Bool}
    (hword : ∀ c ∈ word, isPlainSmall c = true) :
    word <+: lowerAfter cased cs ↔
      ∃ front rest, cs = front ++ rest ∧ front.map Char.toLower = word := by
  induction word generalizing cs cased with
  | nil => exact ⟨fun _ => ⟨[], cs, rfl, rfl⟩, fun _ => List.nil_prefix⟩
  | cons d word ih =>
    obtain ⟨hd, hword⟩ := List.forall_mem_cons.1 hword
    have hfront : (∃ front rest, cs = front ++ rest ∧ front.map Char.toLower = d :: word) ↔
        ∃ c front rest, cs = c :: (front ++ rest) ∧ c.toLower = d ∧
          front.map Char.toLower = word := by
      constructor
      · rintro ⟨front, rest, rfl, hmap⟩
        obtain ⟨c, front, rfl, hc, hmap⟩ := List.map_eq_cons_iff.1 hmap
        exact ⟨c, front, rest, rfl, hc, hmap⟩
      · rintro ⟨c, front, rest, rfl, rfl, rfl⟩
        exact ⟨c :: front, rest, rfl, rfl⟩
    rw [hfront]
    cases cs with
    | nil => simp [lowerAfter]
    | cons c cs =>
      by_cases hc : c.toNat < 128
      · rw [lowerAfter_cons_of_lt hc, List.cons_prefix_cons, ih hword]
        constructor
        · rintro ⟨rfl, front, rest, rfl, hmap⟩
          exact ⟨c, front, rest, rfl, rfl, hmap⟩
        · rintro ⟨_, front, rest, hsplit, hlower, hmap⟩
          obtain ⟨rfl, rfl⟩ := List.cons.inj hsplit
          exact ⟨hlower.symm, front, rest, rfl, hmap⟩
      · have hc : 128 ≤ c.toNat := by omega
        obtain ⟨e, image, himage, he⟩ := exists_lowerAfter_cons_of_le hc cased cs
        constructor
        · intro h
          rw [himage, List.cons_prefix_cons] at h
          rw [h.1, he] at hd
          cases hd
        · rintro ⟨_, front, rest, hsplit, rfl, hmap⟩
          obtain ⟨rfl, rfl⟩ := List.cons.inj hsplit
          rw [toLower_of_le hc] at hd
          simp [isPlainSmall, Nat.not_lt.2 hc] at hd

end SchemaCodegen.Text
