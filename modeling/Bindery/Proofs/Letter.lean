import Bindery.Proofs.Blank
import Bindery.Text.Case
import Mathlib.Data.List.Basic

/-!
# Word characters and small letters

No word character is blank, and writing a text in small letters leaves no capital ASCII letter in
it and brings in no new sign. What an ASCII letter is the small form of is known.
-/

namespace Bindery.Text

/-- The code points of the blanks. -/
def blankCodes : List Nat :=
  [9, 10, 11, 12, 13, 0x20, 0x85, 0xA0, 0x1680, 0x2000, 0x2001, 0x2002, 0x2003, 0x2004, 0x2005,
    0x2006, 0x2007, 0x2008, 0x2009, 0x200A, 0x2028, 0x2029, 0x202F, 0x205F, 0x3000]

theorem toNat_mem_blankCodes {c : Char} (h : isBlank c = true) : c.toNat ∈ blankCodes := by
  simp only [isBlank, Bool.or_eq_true, Bool.and_eq_true, decide_eq_true_eq, beq_iff_eq] at h
  simp only [blankCodes, List.mem_cons, List.not_mem_nil, or_false]
  omega

private theorem isWord_blankCodes : ∀ n ∈ blankCodes,
    (if n < 128 then isAsciiWord (Char.ofNat n)
      else wordIntervals.toList.any fun (first, last) => first ≤ n && n ≤ last) = false := by
  decide +kernel

/-- A word character is not blank. -/
theorem isBlank_eq_false_of_isWord {c : Char} (h : isWord c = true) : isBlank c = false := by
  rw [Bool.eq_false_iff]
  intro hblank
  have hcode := isWord_blankCodes _ (toNat_mem_blankCodes hblank)
  rw [Char.ofNat_toNat] at hcode
  unfold isWord at h
  rw [inIntervals, ← Array.any_toList] at h
  exact Bool.noConfusion (h.symm.trans hcode)

/-- A text of word characters only. -/
def IsWordy (t : Text) : Prop := ∀ c ∈ t, isWord c = true

instance (t : Text) : Decidable (IsWordy t) := List.decidableBAll _ t

section Wordy

variable {t : Text}

/-- A wordy text does not contain a sign that belongs to no word. -/
theorem IsWordy.not_mem (h : IsWordy t) {c : Char} (hc : isWord c = false) : c ∉ t := by
  intro hmem
  rw [h c hmem] at hc
  cases hc

/-- There are no blanks to trim off a wordy text. -/
theorem IsWordy.trim_eq (h : IsWordy t) : trim t = t := by
  have hstart : trimStart t = t :=
    trimStart_of_head fun c hc => isBlank_eq_false_of_isWord (h c (List.mem_of_mem_head? hc))
  rw [trim, hstart]
  exact trimEnd_of_getLast fun c hc =>
    isBlank_eq_false_of_isWord (h c (List.mem_of_getLast? hc))

end Wordy

/-- Every shift to a small letter leads to a character behind the capital ASCII letters. -/
private theorem lowerShifts_range : ∀ e ∈ lowerShifts.toList,
    97 ≤ (e.1 : Int) + e.2.2.2 ∧ (e.2.1 : Int) + e.2.2.2 < 0x110000 ∧
      ((e.2.1 : Int) + e.2.2.2 < 0xD800 ∨ 0xDFFF < (e.1 : Int) + e.2.2.2) := by
  decide +kernel

private theorem toNat_ofNat_of_valid {n : Nat} (h : n < 0xD800 ∨ 0xDFFF < n)
    (hn : n < 0x110000) : (Char.ofNat n).toNat = n := by
  have hvalid : n.isValidChar := h.imp_right fun h => ⟨h, hn⟩
  rw [Char.ofNat, dif_pos hvalid]
  rfl

/-- The small form of an ASCII character is the character itself, unless that is a capital. -/
private theorem toLower_eq_or (c : Char) :
    c.toLower = c ∧ c.isUpper = false ∨ 97 ≤ c.toLower.toNat := by
  unfold Char.toLower
  split
  · next hupper =>
    right
    obtain ⟨hlow, hhigh⟩ := hupper
    rw [ge_iff_le, UInt32.le_iff_toNat_le] at hlow
    rw [UInt32.le_iff_toNat_le] at hhigh
    change 65 ≤ c.val.toNat at hlow
    change c.val.toNat ≤ 90 at hhigh
    change 97 ≤ (c.val + 32).toNat
    rw [UInt32.toNat_add]
    change 97 ≤ (c.val.toNat + 32) % 4294967296
    omega
  · next hupper => exact Or.inl ⟨rfl, decide_eq_false hupper⟩

/-- The small form of a character is the character itself, which is no capital ASCII letter then,
or lies behind those letters. -/
theorem mem_lowerChar {c d : Char} (h : d ∈ lowerChar c) :
    d = c ∧ d.isUpper = false ∨ 97 ≤ d.toNat := by
  unfold lowerChar at h
  split at h
  · next hc =>
    rw [List.mem_singleton.mp h]
    rcases toLower_eq_or c with ⟨heq, hupper⟩ | hcode
    · rw [heq]
      exact Or.inl ⟨rfl, hupper⟩
    · exact Or.inr hcode
  · next hc =>
    right
    split at h
    · rcases List.mem_cons.mp h with rfl | h
      · decide
      · rw [List.mem_singleton.mp h, toNat_ofNat_of_valid (by omega) (by omega)]
        omega
    · split at h
      · next first last step shift hfound =>
        have hmem := Array.mem_toList_iff.mpr (Array.mem_of_find?_eq_some hfound)
        obtain ⟨hlow, hhigh, hgap⟩ := lowerShifts_range _ hmem
        have hin := Array.find?_some hfound
        simp only [Bool.and_eq_true, decide_eq_true_eq] at hin
        dsimp only at hlow hhigh hgap
        rw [List.mem_singleton.mp h, toNat_ofNat_of_valid (by omega) (by omega)]
        omega
      · rw [List.mem_singleton.mp h]
        omega

/-- Of the letters beyond ASCII that are listed, only the Kelvin sign has a small form in ASCII. -/
private theorem lowerShifts_beyond : ∀ e ∈ lowerShifts.toList,
    128 ≤ (e.1 : Int) + e.2.2.2 ∨ e.1 = 0x212A ∧ e.2.1 = 0x212A ∧ e.2.2.2 = -8383 := by
  decide +kernel

/-- A small form that begins in ASCII is that of an ASCII character, except for those of the dotted
capital I and of the Kelvin sign. -/
theorem lowerChar_eq_cons {c e : Char} {rest : Text} (h : lowerChar c = e :: rest)
    (he : e.toNat < 128) :
    (c.toNat < 128 ∧ c.toLower = e ∧ rest = []) ∨ rest.head? = some (Char.ofNat 0x307) ∨
      e = 'k' := by
  unfold lowerChar at h
  split at h
  · next hc =>
    obtain ⟨hlower, hrest⟩ := List.cons.inj h
    exact Or.inl ⟨hc, hlower, hrest.symm⟩
  · next hc =>
    right
    split at h
    · rw [← (List.cons.inj h).2]
      exact Or.inl rfl
    · right
      split at h
      · next first last step shift hfound =>
        have hmem := Array.mem_toList_iff.mpr (Array.mem_of_find?_eq_some hfound)
        obtain ⟨hlow, hhigh, hgap⟩ := lowerShifts_range _ hmem
        have hin := Array.find?_some hfound
        simp only [Bool.and_eq_true, decide_eq_true_eq] at hin
        dsimp only at hlow hhigh hgap
        have hcode := congrArg Char.toNat (List.cons.inj h).1
        rw [toNat_ofNat_of_valid (by omega) (by omega)] at hcode
        rcases lowerShifts_beyond _ hmem with hbeyond | ⟨hfirst, hlast, hshift⟩
        · dsimp only at hbeyond
          omega
        · dsimp only at hfirst hlast hshift
          have hk : e.toNat = 107 := by omega
          rw [← Char.ofNat_toNat e, hk]
      · rw [(List.cons.inj h).1] at hc
        exact absurd he hc

/-- An ASCII character is its small form or the capital of it. -/
theorem eq_or_eq_toUpper_toLower {c : Char} (h : c.toNat < 128) :
    c = c.toLower ∨ c = c.toLower.toUpper := by
  have hall : ∀ n < 128, Char.ofNat n = (Char.ofNat n).toLower ∨
      Char.ofNat n = (Char.ofNat n).toLower.toUpper := by
    decide
  have hc := hall c.toNat h
  rwa [Char.ofNat_toNat] at hc

/-- Every character has a small form. -/
theorem lowerChar_ne_nil (c : Char) : lowerChar c ≠ [] := by
  unfold lowerChar
  split
  · exact List.cons_ne_nil _ _
  · split
    · exact List.cons_ne_nil _ _
    · split <;> exact List.cons_ne_nil _ _

/-- A text whose first letter has become small does not begin with a capital ASCII letter. -/
theorem isUpper_eq_false_of_head?_lowerFirst {t : Text} {e : Char}
    (h : (lowerFirst t).head? = some e) : e.isUpper = false := by
  cases t with
  | nil => cases h
  | cons c t =>
    obtain ⟨d, tail, hsmall⟩ := List.exists_cons_of_ne_nil (lowerChar_ne_nil c)
    rw [lowerFirst, hsmall, List.cons_append, List.head?_cons, Option.some.injEq] at h
    have hmem : e ∈ lowerChar c := by
      rw [hsmall, h]
      exact List.mem_cons_self
    rcases mem_lowerChar hmem with ⟨_, hupper⟩ | hcode
    · exact hupper
    · exact decide_eq_false_iff_not.mpr fun hupper =>
        absurd (Nat.le_trans hcode hupper.2) (by decide)

/-- A text whose first letter has become small began with that letter or with the capital of it. -/
theorem eq_or_eq_of_lowerFirst {t rest : Text} {e : Char} (h : lowerFirst t = e :: rest)
    (he : e.toNat < 128) (hk : e ≠ 'k') (hrest : rest.head? ≠ some (Char.ofNat 0x307)) :
    t = e :: rest ∨ t = e.toUpper :: rest := by
  cases t with
  | nil => cases h
  | cons c t =>
    obtain ⟨d, tail, hsmall⟩ := List.exists_cons_of_ne_nil (lowerChar_ne_nil c)
    rw [lowerFirst, hsmall, List.cons_append] at h
    obtain ⟨rfl, rfl⟩ := List.cons.inj h
    rcases lowerChar_eq_cons hsmall he with ⟨hc, hlower, rfl⟩ | hmark | rfl
    · rw [← hlower]
      rcases eq_or_eq_toUpper_toLower hc with hcase | hcase
      · exact Or.inl (congrArg (· :: t) hcase)
      · exact Or.inr (congrArg (· :: t) hcase)
    · obtain ⟨behind, rfl⟩ := List.head?_eq_some_iff.mp hmark
      exact absurd rfl hrest
    · exact absurd rfl hk

theorem mem_lowerAfter {seen t : Text} {d : Char} (h : d ∈ lowerAfter seen t) :
    d ∈ t ∧ d.isUpper = false ∨ 97 ≤ d.toNat := by
  induction t generalizing seen with
  | nil => exact absurd h List.not_mem_nil
  | cons c t ih =>
    rw [lowerAfter] at h
    rcases List.mem_append.mp h with h | h
    · split at h
      · right
        split at h <;>
        · rw [List.mem_singleton.mp h, toNat_ofNat_of_valid (by omega) (by omega)]
          omega
      · rcases mem_lowerChar h with ⟨rfl, hupper⟩ | h
        · exact Or.inl ⟨List.mem_cons_self, hupper⟩
        · exact Or.inr h
    · exact (ih h).imp_left fun ⟨hmem, hupper⟩ => ⟨List.mem_cons_of_mem c hmem, hupper⟩

/-- A text in small letters has no capital ASCII letter. -/
theorem isUpper_eq_false_of_mem_lower {t : Text} {d : Char} (h : d ∈ lower t) :
    d.isUpper = false := by
  rcases mem_lowerAfter h with ⟨_, hupper⟩ | h
  · exact hupper
  · have hd : ¬ d.toNat ≤ 90 := by omega
    exact decide_eq_false_iff_not.mpr fun hupper => hd hupper.2

/-- A sign before the small letters stands in a text in small letters only if it stood in the
text. -/
theorem mem_of_mem_lower {t : Text} {d : Char} (h : d ∈ lower t) (hd : d.toNat < 97) : d ∈ t := by
  rcases mem_lowerAfter h with ⟨hmem, _⟩ | h
  · exact hmem
  · omega

/-! ## ASCII -/

section Ascii

variable {c : Char} {t : Text}

/-- An ASCII letter or digit, or the underscore, is an ASCII character. -/
theorem toNat_lt_of_isAsciiWord (h : isAsciiWord c = true) : c.toNat < 128 := by
  have halpha : c.isAlpha =
      (decide (c.val ≥ 65 ∧ c.val ≤ 90) || (decide (c.val ≥ 97) && decide (c.val ≤ 122))) := rfl
  simp only [isAsciiWord, Char.isAlphanum, halpha, Char.isDigit, Bool.or_eq_true,
    Bool.and_eq_true, decide_eq_true_eq, beq_iff_eq, UInt32.le_iff_toNat_le, ge_iff_le] at h
  change c.val.toNat < 128
  rcases h with ((⟨_, h⟩ | ⟨_, h⟩) | ⟨_, h⟩) | rfl
  · exact Nat.lt_of_le_of_lt h (by decide)
  · exact Nat.lt_of_le_of_lt h (by decide)
  · exact Nat.lt_of_le_of_lt h (by decide)
  · decide

theorem isWord_of_isAsciiWord (h : isAsciiWord c = true) : isWord c = true := by
  rw [isWord_of_lt (toNat_lt_of_isAsciiWord h), h]

theorem isUpper_of_lt (h : c.toNat < 128) : isUpper c = c.isUpper := if_pos h

private theorem lowerAfter_eq_map_toLower (h : ∀ c ∈ t, c.toNat < 128) (seen : Text) :
    lowerAfter seen t = t.map Char.toLower := by
  induction t generalizing seen with
  | nil => rfl
  | cons c t ih =>
    have hc := h c List.mem_cons_self
    rw [lowerAfter, if_neg (by omega), lowerChar_of_lt hc,
      ih fun d hd => h d (List.mem_cons_of_mem c hd)]
    rfl

/-- The small form of an ASCII text is that of its characters. -/
theorem lower_eq_map_toLower (h : ∀ c ∈ t, c.toNat < 128) : lower t = t.map Char.toLower :=
  lowerAfter_eq_map_toLower h []

/-- The small form of an ASCII letter, digit or underscore is one. -/
theorem isAsciiWord_toLower (h : isAsciiWord c = true) : isAsciiWord c.toLower = true := by
  have hall : ∀ n < 128, isAsciiWord (Char.ofNat n) = true →
      isAsciiWord (Char.ofNat n).toLower = true := by
    decide
  have hc := hall c.toNat (toNat_lt_of_isAsciiWord h)
  rw [Char.ofNat_toNat] at hc
  exact hc h

end Ascii

end Bindery.Text
