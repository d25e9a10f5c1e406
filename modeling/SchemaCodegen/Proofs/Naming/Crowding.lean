import SchemaCodegen.Proofs.Naming.FreeName

/-!
# Proofs: names that are claimed because others crowd

A name is claimed by one who asked for it, or by one who asked for a shorter name and found it and
all its extensions up to this one taken. So it is claimed exactly if, for a shorter name or itself,
more names ask for one of the extensions up to it than there is room for.
-/

namespace SchemaCodegen.Naming

/-! ## Runs of extensions -/

/-- A name and its first extensions, as many as given. -/
def extensions (stem : String) (n : Nat) : List String :=
  (List.range (n + 1)).map (extended stem)

theorem mem_extensions_iff {stem name : String} {n : Nat} :
    name ∈ extensions stem n ↔ ∃ k ≤ n, extended stem k = name := by
  simp only [extensions, List.mem_map, List.mem_range, Nat.lt_succ_iff]

theorem nodup_extensions (stem : String) (n : Nat) : (extensions stem n).Nodup :=
  List.nodup_range.map (extended_injective stem)

theorem extended_left_injective (n : Nat) : Function.Injective fun name => extended name n := by
  intro a b h
  have hlist := congrArg String.toList h
  simp only [toList_extended, List.append_cancel_right_eq] at hlist
  exact String.toList_injective hlist

theorem extended_extended (name : String) (m n : Nat) :
    extended (extended name m) n = extended name (m + n) := by
  rw [extended, extended, extended, ← Function.iterate_add_apply, Nat.add_comm]

/-- The extensions of a name are those before one of them and those of that one. -/
theorem extensions_add (stem : String) (m n : Nat) :
    extensions stem (m + n) =
      (List.range m).map (extended stem) ++ extensions (extended stem m) n := by
  rw [extensions, extensions, Nat.add_assoc, List.range_add, List.map_append, List.map_map]
  exact congrArg _ (List.map_congr_left fun k _ => (extended_extended stem m k).symm)

/-! ## Crowds -/

/-- More names are taken or asked for than a name and its first extensions have room for. -/
def Crowds (taken names : List String) (stem : String) (n : Nat) : Prop :=
  n < (extensions stem n).countP taken.contains + names.countP (extensions stem n).contains

theorem countP_contains_cons {taken names : List String} {free : String} (hnodup : names.Nodup)
    (hfree : free ∉ taken) :
    names.countP (free :: taken).contains =
      names.countP taken.contains + if free ∈ names then 1 else 0 := by
  induction names with
  | nil => rfl
  | cons name names ih =>
    rw [List.nodup_cons] at hnodup
    rw [List.countP_cons, List.countP_cons, ih hnodup.2]
    by_cases hname : free = name
    · subst hname
      simp [hnodup.1, hfree]
    · have hcontains : (free :: taken).contains name = taken.contains name := by
        simp [Ne.symm hname]
      simp only [hcontains, List.mem_cons, hname, false_or]
      omega

/-- There is room as long as the last extension is not taken. -/
theorem countP_extensions_le {taken : List String} {stem : String} {n : Nat}
    (h : extended stem n ∉ taken) : (extensions stem n).countP taken.contains ≤ n := by
  have hlast : extensions stem n = (List.range n).map (extended stem) ++ [extended stem n] :=
    extensions_add stem n 0
  have hle : ((List.range n).map (extended stem)).countP taken.contains ≤ n := by
    simpa using List.countP_le_length (p := taken.contains) (l := (List.range n).map (extended stem))
  rw [hlast, List.countP_append, List.countP_singleton, if_neg (by simpa using h)]
  exact hle

theorem isPrefix_of_mem_extensions {stem name : String} {n : Nat} (h : name ∈ extensions stem n) :
    name.toList <+: (extended stem n).toList := by
  obtain ⟨k, hk, rfl⟩ := mem_extensions_iff.1 h
  rw [← Nat.add_sub_cancel' hk, ← extended_extended, toList_extended (extended stem k)]
  exact List.prefix_append _ _

/-- Nothing is taken of the room up to a name that begins as no taken one. -/
theorem countP_extensions_eq_zero {taken : List String} {stem : String} {n : Nat}
    (h : ∀ word ∈ taken, ¬word.toList <+: (extended stem n).toList) :
    (extensions stem n).countP taken.contains = 0 := by
  refine List.countP_eq_zero.2 fun name hname htaken => ?_
  exact h name (List.contains_iff_mem.1 htaken) (isPrefix_of_mem_extensions hname)

/-- There is no room before an extension with all taken before it. -/
theorem countP_map_extended {taken : List String} {stem : String} {n : Nat}
    (h : ∀ k < n, extended stem k ∈ taken) :
    ((List.range n).map (extended stem)).countP taken.contains = n := by
  have hall : ∀ name ∈ (List.range n).map (extended stem), taken.contains name = true := by
    intro name hname
    obtain ⟨k, hk, rfl⟩ := List.mem_map.1 hname
    exact List.contains_iff_mem.2 (h k (List.mem_range.1 hk))
  rw [List.countP_eq_length.2 hall, List.length_map, List.length_range]

/-- Of two names with a common extension the one that has fewer steps to it is an extension of the
other one. -/
theorem eq_extended_of_le {a b : String} {m n : Nat} (h : extended a m = extended b n)
    (hle : m ≤ n) : a = extended b (n - m) := by
  apply extended_left_injective m
  show extended a m = extended (extended b (n - m)) m
  rw [extended_extended, h, Nat.sub_add_cancel hle]

/-! ## Claimed names -/

section Claim

variable {taken names : List String} {asked name stem : String} {n : Nat}

/-- Who asks for an extension and does not get the last one gets one before it. -/
theorem freeName_mem_extensions (hname : name ∉ taken) (hlast : extended stem n = name)
    (hne : freeName taken asked ≠ name) (h : asked ∈ extensions stem n) :
    freeName taken asked ∈ extensions stem n := by
  obtain ⟨steps, hfree, htaken⟩ := exists_freeName_eq_extended taken asked
  obtain ⟨k, hk, rfl⟩ := mem_extensions_iff.1 h
  rw [extended_extended] at hfree
  refine mem_extensions_iff.2 ⟨k + steps, ?_, hfree.symm⟩
  by_contra hlong
  -- the last one was passed, so it was taken
  have hpassed := htaken (n - k) (by omega)
  rw [extended_extended, Nat.add_sub_cancel' hk, hlast] at hpassed
  exact hname hpassed

/-- Who gets an extension without having asked for one came by a name whose extensions before the
first one are all taken. -/
theorem exists_extended_of_not_mem (hfree : freeName taken asked ∈ extensions stem n)
    (h : asked ∉ extensions stem n) :
    ∃ m, extended asked m = stem ∧ ∀ k < m, extended asked k ∈ taken := by
  obtain ⟨steps, hsteps, htaken⟩ := exists_freeName_eq_extended taken asked
  obtain ⟨k, hk, hkth⟩ := mem_extensions_iff.1 hfree
  have hcommon : extended stem k = extended asked steps := hkth.trans hsteps
  rcases Nat.le_total k steps with hle | hle
  · exact ⟨steps - k, (eq_extended_of_le hcommon hle).symm, fun j hj => htaken j (by omega)⟩
  · have hasked := eq_extended_of_le hcommon.symm hle
    exact absurd (mem_extensions_iff.2 ⟨k - steps, by omega, hasked.symm⟩) h

/-- Taken names before a run of extensions take as much room as they add. -/
theorem countP_extensions_add {m : Nat} (htaken : ∀ k < m, extended stem k ∈ taken) :
    (extensions stem (m + n)).countP taken.contains =
      m + (extensions (extended stem m) n).countP taken.contains := by
  rw [extensions_add, List.countP_append, countP_map_extended htaken]

/-- Whoever asks for one of a run of extensions asks for one of a longer run. -/
theorem countP_extensions_le_add (names : List String) (stem : String) (m n : Nat) :
    names.countP (extensions (extended stem m) n).contains ≤
      names.countP (extensions stem (m + n)).contains := by
  refine List.countP_mono_left fun name _ hname => ?_
  rw [List.contains_iff_mem] at hname ⊢
  rw [extensions_add]
  exact List.mem_append_right _ hname

/-- Who gets an extension joins the crowd there, or the one from the name on that was asked for. -/
theorem exists_crowds_cons (hname : name ∉ taken) (hlast : extended stem n = name)
    (hne : freeName taken asked ≠ name)
    (h : Crowds (freeName taken asked :: taken) names stem n) :
    ∃ stem n, extended stem n = name ∧ Crowds taken (asked :: names) stem n := by
  rw [Crowds, countP_contains_cons (nodup_extensions stem n) (freeName_not_mem taken asked)] at h
  by_cases hmem : asked ∈ extensions stem n
  · refine ⟨stem, n, hlast, ?_⟩
    rw [if_pos (freeName_mem_extensions hname hlast hne hmem)] at h
    rw [Crowds, List.countP_cons, if_pos (List.contains_iff_mem.2 hmem)]
    omega
  by_cases hgot : freeName taken asked ∈ extensions stem n
  · obtain ⟨m, rfl, htaken⟩ := exists_extended_of_not_mem hgot hmem
    have hroom := countP_extensions_add (n := n) htaken
    have hmore := countP_extensions_le_add names asked m n
    have hself : asked ∈ extensions asked (m + n) := mem_extensions_iff.2 ⟨0, Nat.zero_le _, rfl⟩
    refine ⟨asked, m + n, by rw [← extended_extended, hlast], ?_⟩
    rw [if_pos hgot] at h
    rw [Crowds, List.countP_cons, if_pos (List.contains_iff_mem.2 hself), hroom]
    omega
  · refine ⟨stem, n, hlast, ?_⟩
    rw [if_neg hgot] at h
    rw [Crowds, List.countP_cons]
    omega

/-- Who asks for an extension and gets another one leaves the crowd no more room. -/
theorem crowds_of_crowds_cons (hname : name ∉ taken) (hlast : extended stem n = name)
    (hne : freeName taken asked ≠ name) (h : Crowds taken (asked :: names) stem n) :
    Crowds (freeName taken asked :: taken) names stem n := by
  rw [Crowds, countP_contains_cons (nodup_extensions stem n) (freeName_not_mem taken asked)]
  rw [Crowds, List.countP_cons] at h
  by_cases hmem : asked ∈ extensions stem n
  · rw [if_pos (List.contains_iff_mem.2 hmem)] at h
    rw [if_pos (freeName_mem_extensions hname hlast hne hmem)]
    omega
  · rw [if_neg (by rwa [List.contains_iff_mem])] at h
    omega

/-- A name that is got is asked for by a crowd of one, beside the names taken before it. -/
theorem exists_crowds_of_freeName_eq (h : freeName taken asked = name) :
    ∃ stem n, extended stem n = name ∧ Crowds taken (asked :: names) stem n := by
  obtain ⟨n, hn, htaken⟩ := exists_freeName_eq_extended taken asked
  have hself : asked ∈ extensions asked n := mem_extensions_iff.2 ⟨0, Nat.zero_le _, rfl⟩
  have hroom := countP_extensions_add (n := 0) htaken
  refine ⟨asked, n, hn.symm.trans h, ?_⟩
  rw [Nat.add_zero] at hroom
  rw [Crowds, List.countP_cons, if_pos (List.contains_iff_mem.2 hself), hroom]
  omega

/-- A name is claimed exactly if it is not taken and a crowd asks for names up to it. -/
theorem mem_claimAll_iff :
    name ∈ (claimAll taken names).1 ↔
      name ∉ taken ∧ ∃ stem n, extended stem n = name ∧ Crowds taken names stem n := by
  induction names generalizing taken with
  | nil =>
    constructor
    · intro h
      cases h
    · rintro ⟨hname, stem, n, rfl, hcrowds⟩
      have hle := countP_extensions_le hname
      rw [Crowds, List.countP_nil, Nat.add_zero] at hcrowds
      omega
  | cons asked names ih =>
    rw [claimAll, List.mem_cons, ih, List.mem_cons, not_or]
    constructor
    · rintro (rfl | ⟨⟨hne, hname⟩, stem, n, hlast, hcrowds⟩)
      · exact ⟨freeName_not_mem taken asked, exists_crowds_of_freeName_eq rfl⟩
      · exact ⟨hname, exists_crowds_cons hname hlast (Ne.symm hne) hcrowds⟩
    · rintro ⟨hname, stem, n, hlast, hcrowds⟩
      by_cases hne : name = freeName taken asked
      · exact Or.inl hne
      · exact Or.inr ⟨⟨hne, hname⟩, stem, n, hlast,
          crowds_of_crowds_cons hname hlast (Ne.symm hne) hcrowds⟩

end Claim

end SchemaCodegen.Naming
