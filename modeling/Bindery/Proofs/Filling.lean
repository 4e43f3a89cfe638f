import Bindery.Proofs.Layout
import Mathlib.Data.List.Chain

/-!
# Lines filled from left to right

A line takes words as long as they fit, and a word that does not fit begins the next line. So every
line fits unless it is a single word, and no line has room for the first word of the next one. The
words and these two rules leave no other choice of lines.
-/

namespace Bindery

namespace Text

/-- Lines, each given by its words, that are filled from left to right. -/
structure AreFilled (width : Nat) (indent : Text) (lines : List (List Text)) : Prop where
  /-- Every line has a word. -/
  ne_nil : ∀ line ∈ lines, line ≠ []
  /-- A line fits, unless it is a single word. -/
  fits : ∀ line ∈ lines, byteSize (wordLine indent line) ≤ width ∨ line.length = 1
  /-- A line with the first word of the next one would not fit. -/
  greedy : lines.IsChain fun line next =>
    ∀ word ∈ next.head?, width < byteSize (wordLine indent line ++ ' ' :: word)

section Filling

variable {width : Nat} {indent : Text} {line row : List Text} {word : Text}
  {lines lines' : List (List Text)}

/-! ## The size of a line -/

theorem byteSize_wordLine_singleton (indent word : Text) :
    byteSize (wordLine indent [word]) = byteSize indent + byteSize word := by
  rw [wordLine, List.intercalate_singleton, byteSize_append]

theorem byteSize_append_space (t word : Text) :
    byteSize (t ++ ' ' :: word) = byteSize t + 1 + byteSize word := by
  have hspace : Char.utf8Size ' ' = 1 := by decide
  rw [byteSize_append, byteSize_cons, hspace, Nat.add_assoc]

/-- A word behind others stands behind a space. -/
theorem wordLine_concat (h : line ≠ []) (word : Text) :
    wordLine indent (line ++ [word]) = wordLine indent line ++ ' ' :: word := by
  rw [wordLine, intercalate_append_of_ne_nil h (List.cons_ne_nil word []),
    List.intercalate_singleton, ← List.append_assoc, ← wordLine]

/-- A line does not get smaller by more words. -/
theorem byteSize_wordLine_le_append (h : line ≠ []) (row : List Text) :
    byteSize (wordLine indent line) ≤ byteSize (wordLine indent (line ++ row)) := by
  induction row generalizing line with
  | nil => rw [List.append_nil]
  | cons word row ih =>
    have hlonger := ih (List.append_ne_nil_of_left_ne_nil h [word])
    rw [wordLine_concat h, byteSize_append_space, List.append_assoc,
      List.singleton_append] at hlonger
    omega

/-! ## Filled lines -/

theorem areFilled_nil : AreFilled width indent [] :=
  ⟨nofun, nofun, .nil⟩

/-- A line may come before filled lines if it has no room for their first word. -/
theorem AreFilled.cons (h : AreFilled width indent lines) (hne : line ≠ [])
    (hfits : byteSize (wordLine indent line) ≤ width ∨ line.length = 1)
    (hnext : ∀ next ∈ lines.head?, ∀ word ∈ next.head?,
      width < byteSize (wordLine indent line ++ ' ' :: word)) :
    AreFilled width indent (line :: lines) :=
  ⟨List.forall_mem_cons.mpr ⟨hne, h.ne_nil⟩, List.forall_mem_cons.mpr ⟨hfits, h.fits⟩,
    List.isChain_cons.mpr ⟨hnext, h.greedy⟩⟩

theorem AreFilled.tail (h : AreFilled width indent (line :: lines)) :
    AreFilled width indent lines :=
  ⟨(List.forall_mem_cons.mp h.ne_nil).2, (List.forall_mem_cons.mp h.fits).2,
    (List.isChain_cons.mp h.greedy).2⟩

/-- Filled lines without words are none. -/
theorem AreFilled.eq_nil (h : AreFilled width indent lines) (hnil : lines.flatten = []) :
    lines = [] := by
  cases lines with
  | nil => rfl
  | cons line lines =>
    exact absurd (List.flatten_eq_nil_iff.mp hnil line List.mem_cons_self)
      (h.ne_nil line List.mem_cons_self)

/-- A line has no room for the word behind it. -/
theorem AreFilled.lt_of_mem_head? (h : AreFilled width indent (line :: lines))
    (hword : word ∈ lines.flatten.head?) :
    width < byteSize (wordLine indent line ++ ' ' :: word) := by
  cases lines with
  | nil => cases hword
  | cons next lines =>
    have hne : next ≠ [] := h.ne_nil next (List.mem_cons_of_mem line List.mem_cons_self)
    rw [List.flatten_cons, List.head?_append_of_ne_nil _ hne] at hword
    exact (List.isChain_cons_cons.mp h.greedy).1 word hword

/-- A line ends only where the next word does not fit, so that no filled line goes on behind it. -/
theorem AreFilled.row_eq_nil (h : AreFilled width indent (line :: lines))
    (h' : AreFilled width indent ((line ++ row) :: lines'))
    (hwords : lines.flatten = row ++ lines'.flatten) : row = [] := by
  cases row with
  | nil => rfl
  | cons word row =>
    have hne : line ≠ [] := h.ne_nil line List.mem_cons_self
    have hwide : width < byteSize (wordLine indent line ++ ' ' :: word) :=
      h.lt_of_mem_head? (by rw [hwords]; rfl)
    have hlong : byteSize (wordLine indent (line ++ word :: row)) ≤ width := by
      refine (h'.fits _ List.mem_cons_self).resolve_right ?_
      have hpos := List.length_pos_iff.mpr hne
      rw [List.length_append, List.length_cons]
      omega
    have hlonger : byteSize (wordLine indent (line ++ [word])) ≤
        byteSize (wordLine indent (line ++ [word] ++ row)) :=
      byteSize_wordLine_le_append (List.append_ne_nil_of_left_ne_nil hne [word]) row
    rw [wordLine_concat hne, List.append_assoc, List.singleton_append] at hlonger
    omega

/-- There is only one way to fill lines with some words. -/
theorem AreFilled.eq_of_flatten_eq (h : AreFilled width indent lines)
    (h' : AreFilled width indent lines') (hwords : lines.flatten = lines'.flatten) :
    lines = lines' := by
  induction lines generalizing lines' with
  | nil => exact (h'.eq_nil hwords.symm).symm
  | cons line lines ih =>
    cases lines' with
    | nil => exact h.eq_nil hwords
    | cons line' lines' =>
      rw [List.flatten_cons, List.flatten_cons, List.append_eq_append_iff] at hwords
      obtain ⟨row, rfl, hwords⟩ | ⟨row, rfl, hwords⟩ := hwords
      · obtain rfl := h.row_eq_nil h' hwords
        rw [List.append_nil, ih h.tail h'.tail hwords]
      · obtain rfl := h'.row_eq_nil h hwords
        rw [List.append_nil, ih h.tail h'.tail hwords.symm]

/-! ## Filling -/

theorem fillBehind_ne_nil (width indent used : Nat) (ws : List Text) :
    fillBehind width indent used ws ≠ [] := by
  cases ws with
  | nil => exact List.cons_ne_nil _ _
  | cons word ws =>
    unfold fillBehind
    split
    · cases fillBehind width indent (used + 1 + byteSize word) ws <;> exact List.cons_ne_nil _ _
    · exact List.cons_ne_nil _ _

/-- A word in front of the first line is the last one of the line that goes on there. -/
theorem leadLine_eq_modifyHead (h : lines ≠ []) (word : Text) :
    leadLine word lines = lines.modifyHead ([word] ++ ·) := by
  cases lines with
  | nil => exact absurd rfl h
  | cons line lines => rfl

theorem modifyHead_leadLine (h : lines ≠ []) (line : List Text) (word : Text) :
    (leadLine word lines).modifyHead (line ++ ·) =
      lines.modifyHead ((line ++ [word]) ++ ·) := by
  rw [leadLine_eq_modifyHead h, List.modifyHead_modifyHead]
  congr 1
  funext row
  exact (List.append_assoc line [word] row).symm

theorem head?_of_mem_head?_leadLine {next : List Text}
    (h : next ∈ (leadLine word lines).head?) : next.head? = some word := by
  cases lines <;> cases h <;> rfl

/-- Lines are filled when words are filled in behind a line that fits. -/
theorem areFilled_fillBehind (hne : line ≠ [])
    (hfits : byteSize (wordLine indent line) ≤ width ∨ line.length = 1) (ws : List Text) :
    AreFilled width indent ((fillBehind width (byteSize indent)
      (byteSize (wordLine indent line)) ws).modifyHead (line ++ ·)) := by
  induction ws generalizing line with
  | nil =>
    rw [fillBehind, List.modifyHead_cons, List.append_nil]
    exact areFilled_nil.cons hne hfits nofun
  | cons word ws ih =>
    rw [fillBehind, ← byteSize_append_space]
    split
    · next hroom =>
      rw [modifyHead_leadLine (fillBehind_ne_nil _ _ _ _), ← wordLine_concat hne]
      refine ih (List.append_ne_nil_of_left_ne_nil hne [word]) (Or.inl ?_)
      rwa [wordLine_concat hne]
    · next hroom =>
      have hbehind := ih (List.cons_ne_nil word []) (Or.inr rfl)
      rw [byteSize_wordLine_singleton, ← leadLine_eq_modifyHead (fillBehind_ne_nil _ _ _ _)]
        at hbehind
      rw [List.modifyHead_cons, List.append_nil]
      refine hbehind.cons hne hfits fun next hnext word' hword' => ?_
      rw [head?_of_mem_head?_leadLine hnext, Option.mem_some_iff] at hword'
      exact hword' ▸ Nat.lt_of_not_le hroom

theorem areFilled_fill (width : Nat) (indent : Text) (ws : List Text) :
    AreFilled width indent (fill width (byteSize indent) ws) := by
  cases ws with
  | nil => exact areFilled_nil
  | cons word ws =>
    rw [fill, leadLine_eq_modifyHead (fillBehind_ne_nil _ _ _ _), ← byteSize_wordLine_singleton]
    exact areFilled_fillBehind (List.cons_ne_nil word []) (Or.inr rfl) ws

/-- Lines of some words are what filling gives exactly if they are filled. -/
theorem fill_eq_iff (width : Nat) (indent : Text) (ws : List Text) (lines : List (List Text)) :
    fill width (byteSize indent) ws = lines ↔
      lines.flatten = ws ∧ AreFilled width indent lines := by
  constructor
  · rintro rfl
    exact ⟨flatten_fill _ _ _, areFilled_fill width indent ws⟩
  · rintro ⟨hwords, hfilled⟩
    exact (areFilled_fill width indent ws).eq_of_flatten_eq hfilled
      ((flatten_fill _ _ _).trans hwords.symm)

/-- **Words are wrapped from left to right.** The lines of a text are the only ones that are made of
its words in their order, each line of at least one word, with single spaces between them behind the
indentation, and that are filled: a line is too wide only if it is a single word, and would be too
wide with the first word of the next line. -/
theorem wrap_eq_iff (h : IsBlank indent) (width : Nat) (t : Text) (ls : List Text) :
    wrap width indent t = ls ↔
      (∀ l ∈ ls, wordLine indent (words l) = l) ∧ ls.flatMap words = words t ∧
        AreFilled width indent (ls.map words) := by
  rw [List.flatMap_def, ← fill_eq_iff]
  constructor
  · rintro rfl
    refine ⟨?_, (map_words_wrap h width t).symm⟩
    have hlines : ((wrap width indent t).map words).map (wordLine indent) =
        (wrap width indent t).map id := by
      rw [map_words_wrap h, List.map_id]
      rfl
    rw [List.map_map] at hlines
    exact List.map_inj_left.mp hlines
  · rintro ⟨hline, hfill⟩
    rw [wrap, hfill, List.map_map]
    exact (List.map_congr_left hline).trans (List.map_id ls)

/-- A text with several blanks, a letter of two bytes and a word that is wider than a line. -/
def raggedText : Text := " Ä ab\tcd\n fghijklmnopq  r "

/-- Its words in lines of ten bytes. -/
def raggedLines : List (List Text) := [["Ä", "ab", "cd"], ["fghijklmnopq"], ["r"]]

/-- The first line is as wide as a line may be, and the wide word has a line of its own. -/
theorem wrap_eq_iff_raggedText :
    IsBlank "  " ∧ wrap 10 "  " raggedText = ["  Ä ab cd", "  fghijklmnopq", "  r"] ∧
      raggedLines.flatten = words raggedText ∧ AreFilled 10 "  " raggedLines := by
  have hblank : IsBlank "  " := by with_unfolding_all decide
  have hwrap : wrap 10 "  " raggedText = raggedLines.map (wordLine "  ") := by
    with_unfolding_all decide
  obtain ⟨_, hwords, hfilled⟩ := (wrap_eq_iff hblank 10 raggedText _).mp hwrap
  have hlines : (raggedLines.map (wordLine "  ")).map words = raggedLines := by
    with_unfolding_all decide
  rw [List.flatMap_def, hlines] at hwords
  rw [hlines] at hfilled
  exact ⟨hblank, by with_unfolding_all decide, hwords, hfilled⟩

end Filling

end Text

end Bindery
