import Bindery.Text.Blank
import Mathlib.Data.List.DropRight
import Mathlib.Data.List.TakeWhile

/-!
# Blanks at the ends of a text

Trimming takes off all blanks at the ends of a text and nothing else. It reaches as far into a text
that is made of parts as the parts at its ends are blank.
-/

namespace Bindery

namespace Text

/-- A text of blanks only. -/
def IsBlank (t : Text) : Prop := ∀ c ∈ t, isBlank c = true

instance (t : Text) : Decidable (IsBlank t) := List.decidableBAll _ t

theorem IsBlank.of_infix {s t : Text} (h : IsBlank t) (hs : s <:+: t) : IsBlank s :=
  fun c hc => h c (hs.subset hc)

theorem trimStart_eq_nil_iff {t : Text} : trimStart t = [] ↔ IsBlank t :=
  List.dropWhile_eq_nil_iff

/-- A text is what its trimmed form leaves and a blank beginning. -/
theorem exists_blank_append_trimStart (t : Text) : ∃ lead, IsBlank lead ∧ t = lead ++ trimStart t :=
  ⟨t.takeWhile isBlank, fun _ hc => List.mem_takeWhile_imp hc,
    List.takeWhile_append_dropWhile.symm⟩

/-- A text is what its trimmed form leaves and a blank ending. -/
theorem exists_trimEnd_append_blank (t : Text) : ∃ tail, IsBlank tail ∧ t = trimEnd t ++ tail := by
  obtain ⟨lead, hlead, he⟩ := exists_blank_append_trimStart t.reverse
  refine ⟨lead.reverse, fun c hc => hlead c (List.mem_reverse.mp hc), ?_⟩
  have hreverse := congrArg List.reverse he
  rw [List.reverse_reverse, List.reverse_append] at hreverse
  exact hreverse

/-- The trimmed form is part of the text. -/
theorem trim_infix (t : Text) : trim t <:+: t := by
  obtain ⟨lead, _, he⟩ := exists_blank_append_trimStart t
  obtain ⟨tail, _, he'⟩ := exists_trimEnd_append_blank (trimStart t)
  refine ⟨lead, tail, ?_⟩
  rw [trim, List.append_assoc, ← he', ← he]

/-- Trimming the front of a text that begins with something reaches no further than that, unless
it is blank and blanks follow it. -/
theorem trimStart_append {b t : Text} (h : IsBlank b → trimStart t = t) :
    trimStart (b ++ t) = trimStart b ++ t := by
  by_cases hb : IsBlank b
  · rw [trimStart, List.dropWhile_append_of_pos hb, trimStart_eq_nil_iff.mpr hb]
    exact h hb
  · have hne : (b.dropWhile isBlank).isEmpty = false :=
      List.isEmpty_eq_false_iff.mpr fun hnil => hb (trimStart_eq_nil_iff.mp hnil)
    rw [trimStart, List.dropWhile_append, hne]
    rfl

/-- Trimming the end of a text that ends with something reaches no further than that, unless it is
blank and blanks precede it. -/
theorem trimEnd_append {t b : Text} (h : IsBlank b → trimEnd t = t) :
    trimEnd (t ++ b) = t ++ trimEnd b := by
  have hreverse : IsBlank b.reverse → trimStart t.reverse = t.reverse := by
    intro hb
    have hend := h fun c hc => hb c (List.mem_reverse.mpr hc)
    exact List.reverse_eq_iff.mp hend
  have hstart := trimStart_append hreverse
  rw [trimEnd, List.reverse_append]
  unfold trimStart at hstart
  rw [hstart, List.reverse_append, List.reverse_reverse, trimEnd]

theorem trimStart_of_head {t : Text} (h : ∀ c ∈ t.head?, isBlank c = false) : trimStart t = t := by
  cases t with
  | nil => rfl
  | cons c t =>
    rw [trimStart, List.dropWhile_cons, h c rfl]
    rfl

theorem trimEnd_of_getLast {t : Text} (h : ∀ c ∈ t.getLast?, isBlank c = false) :
    trimEnd t = t := by
  have hreverse : trimStart t.reverse = t.reverse := by
    apply trimStart_of_head
    rwa [List.head?_reverse]
  exact List.reverse_eq_iff.mpr hreverse

/-- Blanks behind a text are trimmed off with its own. -/
theorem trim_append_blank {tail : Text} (h : IsBlank tail) (t : Text) :
    trim (t ++ tail) = trim t := by
  have hend : ∀ s : Text, trimEnd (s ++ tail) = trimEnd s := by
    intro s
    rw [trimEnd, List.reverse_append,
      List.dropWhile_append_of_pos fun c hc => h c (List.mem_reverse.mp hc), trimEnd]
  by_cases ht : IsBlank t
  · have hall : IsBlank (t ++ tail) := fun c hc => (List.mem_append.mp hc).elim (ht c) (h c)
    rw [trim, trim, trimStart_eq_nil_iff.mpr hall, trimStart_eq_nil_iff.mpr ht]
  · rw [trim, trimStart_append fun hb => absurd hb ht, hend, trim]

@[simp] theorem trim_trimStart (t : Text) : trim (trimStart t) = trim t := by
  rw [trim, trim, trimStart, trimStart, List.dropWhile_idempotent]

@[simp] theorem trim_trimEnd (t : Text) : trim (trimEnd t) = trim t := by
  obtain ⟨tail, htail, he⟩ := exists_trimEnd_append_blank t
  conv_rhs => rw [he]
  exact (trim_append_blank htail _).symm

theorem trim_eq_nil_iff {t : Text} : trim t = [] ↔ IsBlank t := by
  constructor
  · intro h
    obtain ⟨lead, hlead, he⟩ := exists_blank_append_trimStart t
    obtain ⟨tail, htail, he'⟩ := exists_trimEnd_append_blank (trimStart t)
    have hnil : trimEnd (trimStart t) = [] := h
    rw [he, he', hnil]
    intro c hc
    exact (List.mem_append.mp hc).elim (hlead c) (htail c)
  · intro h
    rw [trim, trimStart_eq_nil_iff.mpr h]
    rfl

/-- A trimmed text does not begin with a blank. -/
theorem isBlank_head_trim {t : Text} : ∀ c ∈ (trim t).head?, isBlank c = false := by
  intro c hc
  have hprefix : trim t <+: trimStart t := by
    obtain ⟨tail, _, he⟩ := exists_trimEnd_append_blank (trimStart t)
    exact ⟨tail, he.symm⟩
  have hhead : (trimStart t).head? = some c := by
    obtain ⟨rest, hrest⟩ := hprefix
    rw [← hrest, List.head?_append, hc]
    rfl
  have hnot := List.head?_dropWhile_not isBlank t
  unfold trimStart at hhead
  rw [hhead] at hnot
  exact hnot

/-- A trimmed text does not end with a blank. -/
theorem isBlank_getLast_trim {t : Text} : ∀ c ∈ (trim t).getLast?, isBlank c = false := by
  intro c hc
  rw [trim, trimEnd, List.getLast?_reverse] at hc
  have hnot := List.head?_dropWhile_not isBlank (trimStart t).reverse
  rw [hc] at hnot
  exact hnot

end Text

end Bindery
