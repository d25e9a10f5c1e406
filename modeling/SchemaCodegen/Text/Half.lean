/-!
# Halves of pairs

The code of a character beyond the first plane may be written as the codes of two halves. A half
that stands alone is no character, but an escape in a file may name one, and a text has to hold it.
It is held by a private character. A `Holding` says which private characters hold halves: usually
those of the last plane whose codes end in the same four digits. A text that has one of these of its
own is read under another holding, which spares all characters of the text. `codeOf` gives the code
of the half back, which is what messages show.
-/

namespace SchemaCodegen.Text

/-- Whether a code is the first half of a pair. -/
def isHighHalf (code : Nat) : Bool :=
  0xD800 ≤ code && code ≤ 0xDBFF

/-- Whether a code is the second half of a pair. -/
def isLowHalf (code : Nat) : Bool :=
  0xDC00 ≤ code && code ≤ 0xDFFF

/-- Whether a code is that of a half. -/
def isHalf (code : Nat) : Bool :=
  isHighHalf code || isLowHalf code

theorem isHalf_iff {code : Nat} : isHalf code = true ↔ 0xD800 ≤ code ∧ code ≤ 0xDFFF := by
  simp [isHalf, isHighHalf, isLowHalf]
  omega

/-- How many halves there are. -/
def halfCount : Nat := 0x800

/-- The code that two halves stand for. -/
def joinHalves (high low : Nat) : Nat :=
  0x10000 + (high - 0xD800) * 0x400 + (low - 0xDC00)

/-! ## Holdings -/

/-- Whether the code is that of a character left to private use. -/
def isPrivateCode (code : Nat) : Bool :=
  (0xE000 ≤ code && code ≤ 0xF8FF) || (0xF0000 ≤ code && code ≤ 0xFFFFD) ||
    (0x100000 ≤ code && code ≤ 0x10FFFD)

/-- Whether a text has a private character. -/
def hasPrivate (text : String) : Bool :=
  text.toList.any fun c => isPrivateCode c.toNat

/-- How halves are held by characters. -/
class Holding where
  /-- The character that holds a half, if there is one for it. -/
  hold? : Nat → Option Char
  /-- The half that a character holds, if it holds one. -/
  held? : Char → Option Nat
  /-- A half is got back from the character that holds it. -/
  held?_of_hold? : ∀ code c, hold? code = some c → held? c = some code
  /-- Only private characters hold halves. -/
  isPrivate_of_held? : ∀ c, (held? c).isSome = true → isPrivateCode c.toNat = true

theorem toNat_ofNat {code : Nat} (h : code.isValidChar) : (Char.ofNat code).toNat = code := by
  rw [Char.ofNat, dif_pos h]
  rfl

namespace Holding

/-- Each half is held by the character whose code is so much greater. -/
@[reducible] def shifted (shift : Nat) (hfirst : 0x100000 ≤ shift + 0xD800)
    (hlast : shift + 0xDFFF ≤ 0x10FFFD) : Holding where
  hold? code := if isHalf code then some (Char.ofNat (shift + code)) else none
  held? c := if isHalf (c.toNat - shift) then some (c.toNat - shift) else none
  held?_of_hold? code c h := by
    obtain ⟨hhalf, he⟩ := (Option.ite_none_right_eq_some ..).1 h
    obtain rfl := Option.some.inj he
    have hbounds := isHalf_iff.1 hhalf
    have hvalid : (shift + code).isValidChar := Or.inr ⟨by omega, by omega⟩
    rw [toNat_ofNat hvalid, Nat.add_sub_cancel_left, if_pos hhalf]
  isPrivate_of_held? c h := by
    have hhalf : isHalf (c.toNat - shift) = true :=
      Decidable.of_not_not fun hnot => by simp [hnot] at h
    have hbounds := isHalf_iff.1 hhalf
    simp [isPrivateCode]
    omega

/-- The usual holding. -/
instance standard : Holding :=
  shifted 0x100000 (by decide) (by decide)

/-- A holding that has no character in common with the usual one. -/
@[reducible] def aside : Holding :=
  shifted 0xFF800 (by decide) (by decide)

/-- The halves are held by the given private characters one by one, as far as these go. -/
@[reducible] def ofChars (chars : List Char) (hnodup : chars.Nodup)
    (hprivate : ∀ c ∈ chars, isPrivateCode c.toNat = true) : Holding where
  hold? code := if isHalf code then chars[code - 0xD800]? else none
  held? c := if chars.contains c then some (0xD800 + chars.idxOf c) else none
  held?_of_hold? code c h := by
    obtain ⟨hhalf, hplace⟩ := (Option.ite_none_right_eq_some ..).1 h
    obtain ⟨hlt, rfl⟩ := List.getElem?_eq_some_iff.1 hplace
    rw [if_pos (by simp), hnodup.idxOf_getElem _ hlt, Nat.add_sub_cancel' (isHalf_iff.1 hhalf).1]
  isPrivate_of_held? c h := by
    refine hprivate c (Decidable.of_not_not fun hnot => ?_)
    simp [hnot] at h

end Holding

/-- The codes of the characters left to private use. -/
def privateCodes : List Nat :=
  List.range' 0xE000 0x1900 ++ List.range' 0xF0000 0xFFFE ++ List.range' 0x100000 0xFFFE

/-- The characters left to private use. -/
def privateChars : List Char :=
  privateCodes.map Char.ofNat

theorem mem_privateCodes_iff {code : Nat} : code ∈ privateCodes ↔ isPrivateCode code = true := by
  simp [privateCodes, isPrivateCode]
  omega

theorem nodup_privateCodes : privateCodes.Nodup := by
  have hincreasing : privateCodes.Pairwise (· < ·) := by
    refine List.pairwise_append.2
      ⟨List.pairwise_append.2 ⟨List.pairwise_lt_range', List.pairwise_lt_range', ?_⟩,
        List.pairwise_lt_range', ?_⟩
    · simp only [List.mem_range'_1]
      omega
    · simp only [List.mem_append, List.mem_range'_1]
      omega
  exact hincreasing.imp Nat.ne_of_lt

theorem toNat_ofNat_of_mem {code : Nat} (h : code ∈ privateCodes) :
    (Char.ofNat code).toNat = code := by
  have hprivate := mem_privateCodes_iff.1 h
  simp [isPrivateCode] at hprivate
  exact toNat_ofNat (Or.inr ⟨by omega, by omega⟩)

theorem nodup_privateChars : privateChars.Nodup := by
  refine List.pairwise_map.2 (nodup_privateCodes.imp_of_mem ?_)
  intro a b ha hb hne he
  have hcodes : (Char.ofNat a).toNat = (Char.ofNat b).toNat := congrArg Char.toNat he
  rw [toNat_ofNat_of_mem ha, toNat_ofNat_of_mem hb] at hcodes
  exact hne hcodes

/-- How many private characters there are. -/
def privateCount : Nat := 137468

theorem length_privateChars : privateChars.length = privateCount := by
  simp [privateChars, privateCodes, privateCount]

theorem isPrivateCode_toNat {c : Char} (h : c ∈ privateChars) : isPrivateCode c.toNat = true := by
  obtain ⟨code, hcode, rfl⟩ := List.mem_map.1 h
  rw [toNat_ofNat_of_mem hcode]
  exact mem_privateCodes_iff.1 hcode

namespace Holding

/-- The first private characters that are not among the given ones, one for each half if there are
enough of them. -/
def spare (used : List Char) : List Char :=
  let own := used.filter fun c => isPrivateCode c.toNat
  (privateChars.filter (!own.contains ·)).take halfCount

theorem mem_privateChars_of_mem_spare {used : List Char} {c : Char} (h : c ∈ spare used) :
    c ∈ privateChars :=
  (List.mem_filter.1 (List.mem_of_mem_take h)).1

/-- A character that is spared is not among the given ones. -/
theorem not_mem_of_mem_spare {used : List Char} {c : Char} (h : c ∈ spare used) : c ∉ used := by
  intro hused
  have hprivate := isPrivateCode_toNat (mem_privateChars_of_mem_spare h)
  have hown := (List.mem_filter.1 (List.mem_of_mem_take h)).2
  simp [hused, hprivate] at hown

theorem halfCount_le_length_spare {used : List Char}
    (h : used.length + halfCount ≤ privateCount) : halfCount ≤ (spare used).length := by
  let own := used.filter fun c => isPrivateCode c.toNat
  have hown : own.length ≤ used.length := List.length_filter_le ..
  have hnodup : (privateChars.filter (own.contains ·)).Nodup := nodup_privateChars.filter _
  have htaken : (privateChars.filter (own.contains ·)).length ≤ own.length :=
    hnodup.length_le_of_subset fun c hc => by simpa using (List.mem_filter.1 hc).2
  have hsplit := (List.filter_append_perm (own.contains ·) privateChars).length_eq
  rw [List.length_append, length_privateChars] at hsplit
  show halfCount ≤ ((privateChars.filter (!own.contains ·)).take halfCount).length
  rw [List.length_take]
  omega

/-- A holding for texts that have the given characters of their own: the one that is preferred if it
takes none of them, and else one that spares them. -/
@[irreducible] def apartFrom (preferred : Holding) (used : List Char) : Holding :=
  if used.all fun c => (preferred.held? c).isNone then preferred
  else
    ofChars (spare used) ((nodup_privateChars.filter _).sublist (List.take_sublist _ _))
      fun _ hc => isPrivateCode_toNat (mem_privateChars_of_mem_spare hc)

variable {preferred : Holding} {used : List Char}

theorem apartFrom_eq_preferred (h : ∀ c ∈ used, preferred.held? c = none) :
    apartFrom preferred used = preferred := by
  rw [apartFrom, if_pos (List.all_eq_true.2 fun c hc => by rw [h c hc]; rfl)]

/-- A holding for texts takes no character that they have of their own. -/
theorem held?_apartFrom {c : Char} (hc : c ∈ used) : (apartFrom preferred used).held? c = none := by
  by_cases hall : ∀ c ∈ used, preferred.held? c = none
  · rw [apartFrom_eq_preferred hall]
    exact hall c hc
  · have hspare : c ∉ spare used := fun hmem => not_mem_of_mem_spare hmem hc
    rw [apartFrom, if_neg (by simpa using hall)]
    exact if_neg (by simpa using hspare)

/-- Every half is held, unless the texts have nearly all private characters of their own. -/
theorem isSome_hold?_apartFrom (h : used.length + halfCount ≤ privateCount)
    (hpreferred : ∀ code, isHalf code = true → (preferred.hold? code).isSome = true) {code : Nat}
    (hhalf : isHalf code = true) : ((apartFrom preferred used).hold? code).isSome = true := by
  by_cases hall : ∀ c ∈ used, preferred.held? c = none
  · rw [apartFrom_eq_preferred hall]
    exact hpreferred code hhalf
  · have hbounds := isHalf_iff.1 hhalf
    have hlength := halfCount_le_length_spare h
    have hplace : code - 0xD800 < (spare used).length := by
      rw [halfCount] at hlength
      omega
    rw [apartFrom, if_neg (by simpa using hall)]
    show (if isHalf code then (spare used)[code - 0xD800]? else none).isSome = true
    rw [if_pos hhalf, List.getElem?_eq_getElem hplace, Option.isSome_some]

end Holding

/-! ## Texts with halves -/

section Texts

variable [Holding]

/-- The character that is held for a code; a half that no character is left for is replaced. -/
def charOfCode (code : Nat) : Char :=
  if isHalf code then (Holding.hold? code).getD '\ufffd' else Char.ofNat code

/-- Whether a character is held for a half that stands alone. -/
def isLoneHalf (c : Char) : Bool :=
  (Holding.held? c).isSome

/-- The code that a character is held for. -/
def codeOf (c : Char) : Nat :=
  (Holding.held? c).getD c.toNat

/-- The code of a half is got back from the character that is held for it. -/
theorem codeOf_charOfCode {code : Nat} (hhalf : isHalf code = true)
    (hheld : (Holding.hold? code).isSome = true) : codeOf (charOfCode code) = code := by
  obtain ⟨c, hc⟩ := Option.isSome_iff_exists.1 hheld
  rw [charOfCode, if_pos hhalf, hc, codeOf, Option.getD_some, Holding.held?_of_hold? code c hc,
    Option.getD_some]

/-- Whether a text holds a half that stands alone. -/
def hasLoneHalf (text : String) : Bool :=
  text.toList.any isLoneHalf

/-- A text without private characters holds no half. -/
theorem hasLoneHalf_eq_false {text : String} (h : hasPrivate text = false) :
    hasLoneHalf text = false := by
  rw [hasLoneHalf, List.any_eq_false]
  intro c hc hhalf
  exact List.any_eq_false.1 h c hc (Holding.isPrivate_of_held? c hhalf)

/-- The text with three replacement characters, one for each byte, in place of a half that stands
alone. -/
def withoutHalves (text : String) : String :=
  String.ofList (text.toList.flatMap fun c =>
    if isLoneHalf c then ['\ufffd', '\ufffd', '\ufffd'] else [c])

/-- The halves that stand alone at the front of a text from its first half on, and how many
characters stand before them. -/
def firstHalves? (text : String) : Option (Nat × List Nat) :=
  match text.toList.dropWhile (!isLoneHalf ·) with
  | [] => none
  | halves => some (text.length - halves.length, (halves.takeWhile isLoneHalf).map codeOf)

end Texts

end SchemaCodegen.Text
