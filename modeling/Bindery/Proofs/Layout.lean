import Bindery.Proofs.Blank
import Bindery.Text.Line
import Bindery.Text.Wrap

/-!
# Words and tokens of a text in lines

A reader that passes over blanks sees words, and commas and equals signs wherever they stand. Such a
reader cannot tell how words were filled into lines, and finds a text again whose only blanks are
single spaces.
-/

namespace Bindery

namespace Text

/-! ## Words -/

@[simp] theorem words_nil : words [] = [] := by
  rw [words, List.splitOnP_nil]
  rfl

/-- A blank ends a word. -/
theorem words_append_blank {c : Char} (hc : isBlank c = true) (s t : Text) :
    words (s ++ c :: t) = words s ++ words t := by
  rw [words, List.splitOnP_append_cons s t hc, List.filter_append, words, words]

/-- A text without blanks is one word. -/
theorem words_of_forall {w : Text} (hne : w ≠ []) (h : ∀ c ∈ w, isBlank c = false) :
    words w = [w] := by
  have hkept : (!w.isEmpty) = true := by
    rw [Bool.not_eq_true', List.isEmpty_eq_false_iff]
    exact hne
  rw [words, List.splitOnP_eq_singleton h]
  exact List.filter_cons_of_pos hkept

/-- No separator stands in a piece between separators. -/
theorem eq_false_of_mem_splitOnP {p : Char → Bool} {t piece : Text} (h : piece ∈ t.splitOnP p) :
    ∀ c ∈ piece, p c = false := by
  induction t generalizing piece with
  | nil =>
    rw [List.splitOnP_nil, List.mem_singleton] at h
    rw [h]
    exact nofun
  | cons d t ih =>
    rw [List.splitOnP_cons_eq_if_modifyHead] at h
    split at h
    · rcases List.mem_cons.mp h with rfl | h
      · exact nofun
      · exact ih h
    · next hd =>
      obtain ⟨first, rest, hsplit⟩ := List.exists_cons_of_ne_nil (List.splitOnP_ne_nil p t)
      rw [hsplit, List.modifyHead_cons] at h
      rw [hsplit] at ih
      rcases List.mem_cons.mp h with rfl | h
      · intro c hc
        rcases List.mem_cons.mp hc with rfl | hc
        · exact Bool.eq_false_iff.mpr hd
        · exact ih List.mem_cons_self c hc
      · exact ih (List.mem_cons_of_mem first h)

/-- No blank stands in a word. -/
theorem isBlank_eq_false_of_mem_words {t word : Text} (h : word ∈ words t) :
    ∀ c ∈ word, isBlank c = false :=
  eq_false_of_mem_splitOnP (List.mem_of_mem_filter h)

/-- A word is one word. -/
theorem words_of_mem_words {t word : Text} (h : word ∈ words t) : words word = [word] := by
  refine words_of_forall ?_ (isBlank_eq_false_of_mem_words h)
  have hkept := (List.mem_filter.mp h).2
  rintro rfl
  cases hkept

/-- Blanks in front of a text are no words. -/
theorem words_blank_append {lead : Text} (h : IsBlank lead) (t : Text) :
    words (lead ++ t) = words t := by
  induction lead with
  | nil => rfl
  | cons c lead ih =>
    have hfront := words_append_blank (h c List.mem_cons_self) [] (lead ++ t)
    rw [words_nil, List.nil_append, List.nil_append] at hfront
    rw [List.cons_append, hfront]
    exact ih fun d hd => h d (List.mem_cons_of_mem c hd)

/-! ## Tokens -/

/-- A sign that stands for itself wherever it stands. -/
def isMark (c : Char) : Bool := c == ',' || c == '='

theorem isBlank_eq_false_of_isMark {c : Char} (h : isMark c = true) : isBlank c = false := by
  rw [isMark, Bool.or_eq_true, beq_iff_eq, beq_iff_eq] at h
  rcases h with rfl | rfl <;> decide

/-- A text with blanks around its marks. -/
def spread (t : Text) : Text := t.flatMap fun c => if isMark c then [' ', c, ' '] else [c]

/-- The marks of a text, and its words between them. -/
def tokens (t : Text) : List Text := words (spread t)

@[simp] theorem tokens_nil : tokens [] = [] := words_nil

/-- A blank ends a token. -/
theorem tokens_append_blank {c : Char} (hc : isBlank c = true) (s t : Text) :
    tokens (s ++ c :: t) = tokens s ++ tokens t := by
  have hmark : isMark c = false := by
    rw [Bool.eq_false_iff]
    intro hmark
    rw [isBlank_eq_false_of_isMark hmark] at hc
    cases hc
  rw [tokens, spread, List.flatMap_append, List.flatMap_cons, if_neg (Bool.eq_false_iff.mp hmark),
    List.singleton_append, words_append_blank hc]
  rfl

/-- A mark is a token, and ends the one before. -/
theorem tokens_append_mark {c : Char} (hc : isMark c = true) (s t : Text) :
    tokens (s ++ c :: t) = tokens s ++ [c] :: tokens t := by
  have hmark : words [c] = [[c]] :=
    words_of_forall (List.cons_ne_nil c []) fun d hd => by
      rw [List.mem_singleton.mp hd]
      exact isBlank_eq_false_of_isMark hc
  have hspace : isBlank ' ' = true := by decide
  rw [tokens, spread, List.flatMap_append, List.flatMap_cons, if_pos hc, List.cons_append,
    words_append_blank hspace, List.cons_append, List.singleton_append]
  have hbehind := words_append_blank hspace [c] (t.flatMap fun d =>
    if isMark d then [' ', d, ' '] else [d])
  rw [List.singleton_append, hmark] at hbehind
  rw [hbehind]
  rfl

/-- A text without blanks and marks is one token. -/
theorem tokens_of_forall {w : Text} (hne : w ≠ [])
    (h : ∀ c ∈ w, isBlank c = false ∧ isMark c = false) : tokens w = [w] := by
  have hspread : spread w = w := by
    rw [spread]
    clear hne
    induction w with
    | nil => rfl
    | cons c w ih =>
      rw [List.flatMap_cons, ih fun d hd => h d (List.mem_cons_of_mem c hd),
        if_neg (Bool.eq_false_iff.mp (h c List.mem_cons_self).2), List.singleton_append]
  rw [tokens, hspread]
  exact words_of_forall hne fun c hc => (h c hc).1

theorem tokens_cons_blank {c : Char} (hc : isBlank c = true) (t : Text) :
    tokens (c :: t) = tokens t := by
  rw [← List.nil_append (c :: t), tokens_append_blank hc, tokens_nil, List.nil_append]

theorem tokens_cons_mark {c : Char} (hc : isMark c = true) (t : Text) :
    tokens (c :: t) = [c] :: tokens t := by
  rw [← List.nil_append (c :: t), tokens_append_mark hc, tokens_nil, List.nil_append]

/-- The tokens of a text are those of its words. -/
theorem tokens_eq_flatMap_words (t : Text) : tokens t = (words t).flatMap tokens := by
  -- The induction goes from the first blank to the text behind it.
  induction hlength : t.length using Nat.strong_induction_on generalizing t with
  | _ n ih =>
    obtain ⟨w, rest, rfl, hw, hrest⟩ : ∃ w rest, t = w ++ rest ∧
        (∀ c ∈ w, isBlank c = false) ∧ ∀ c ∈ rest.head?, isBlank c = true := by
      refine ⟨t.takeWhile (!isBlank ·), t.dropWhile (!isBlank ·),
        List.takeWhile_append_dropWhile.symm, ?_, ?_⟩
      · intro c hc
        have hkept := List.mem_takeWhile_imp hc
        rwa [Bool.not_eq_true'] at hkept
      · intro c hc
        have hnot := List.head?_dropWhile_not (!isBlank ·) t
        rw [hc] at hnot
        exact (Bool.not_not _).symm.trans (congrArg (!·) hnot)
    have hword : tokens w = (words w).flatMap tokens := by
      by_cases hne : w = []
      · subst hne
        rw [tokens_nil, words_nil, List.flatMap_nil]
      · rw [words_of_forall hne hw, List.flatMap_singleton]
    cases rest with
    | nil => rwa [List.append_nil]
    | cons c rest =>
      rw [List.length_append, List.length_cons] at hlength
      have hblank := hrest c rfl
      rw [tokens_append_blank hblank, words_append_blank hblank, List.flatMap_append, ← hword,
        ih rest.length (by omega) rest rfl]

/-! ## Lines -/

/-- The words of lines are those of each of them. -/
theorem words_unlines (ls : List Text) : words (unlines ls) = ls.flatMap words := by
  induction ls with
  | nil => exact words_nil
  | cons l ls ih =>
    cases ls with
    | nil => rw [unlines_singleton, List.flatMap_singleton]
    | cons m ls =>
      rw [unlines_cons_cons, words_append_blank (by decide), ih]
      rfl

/-- Words that are set apart by spaces are found again. -/
theorem words_intercalate {ws : List Text} (h : ∀ w ∈ ws, words w = [w]) :
    words (List.intercalate [' '] ws) = ws := by
  induction ws with
  | nil => exact words_nil
  | cons w ws ih =>
    have hw := h w List.mem_cons_self
    cases ws with
    | nil => rw [List.intercalate_singleton, hw]
    | cons next ws =>
      rw [List.intercalate_cons_cons, List.append_assoc, List.singleton_append,
        words_append_blank (by decide), hw, ih fun v hv => h v (List.mem_cons_of_mem w hv)]
      rfl

/-- The lines of a text have the words that were filled into them. -/
theorem map_words_wrap {indent : Text} (h : IsBlank indent) (width : Nat) (t : Text) :
    (wrap width indent t).map words = fill width (byteSize indent) (words t) := by
  have hline : ∀ line ∈ fill width (byteSize indent) (words t),
      words (wordLine indent line) = line := by
    intro line hline
    rw [wordLine, words_blank_append h]
    apply words_intercalate
    intro w hw
    have hmem := List.mem_flatten_of_mem hline hw
    rw [flatten_fill] at hmem
    exact words_of_mem_words hmem
  rw [wrap, List.map_map]
  exact (List.map_congr_left hline).trans (List.map_id _)

/-- Filling words into lines does not change the words of a text. -/
theorem words_unlines_wrap {indent : Text} (h : IsBlank indent) (width : Nat) (t : Text) :
    words (unlines (wrap width indent t)) = words t := by
  rw [words_unlines, List.flatMap_def, map_words_wrap h, flatten_fill]

/-- Filling words into lines does not change the tokens of a text. -/
theorem tokens_unlines_wrap {indent : Text} (h : IsBlank indent) (width : Nat) (t : Text) :
    tokens (unlines (wrap width indent t)) = tokens t := by
  rw [tokens_eq_flatMap_words, words_unlines_wrap h, ← tokens_eq_flatMap_words]

/-! ## Normal texts -/

/-- A text that is not empty and whose only blanks are single spaces between its words. -/
structure IsNormal (t : Text) : Prop where
  /-- There is something in the text. -/
  ne_nil : t ≠ []
  /-- Making the blanks into single spaces changes nothing. -/
  normalize_eq : normalize t = t

instance (t : Text) : Decidable (IsNormal t) :=
  decidable_of_iff (t ≠ [] ∧ normalize t = t) ⟨fun ⟨hne, h⟩ => ⟨hne, h⟩, fun ⟨hne, h⟩ => ⟨hne, h⟩⟩

section Normal

variable {s t : Text} {c : Char}

theorem isNormal_intercalate {ws : List Text} (hne : ws ≠ []) (h : ∀ w ∈ ws, words w = [w]) :
    IsNormal (List.intercalate [' '] ws) := by
  have hwords := words_intercalate h
  refine ⟨?_, by rw [normalize, hwords]⟩
  intro hnil
  rw [hnil, words_nil] at hwords
  exact hne hwords.symm

/-- A normal text consists of words, at least one, with a space between any two of them. -/
theorem IsNormal.exists_words (h : IsNormal t) :
    ∃ ws, ws ≠ [] ∧ (∀ w ∈ ws, words w = [w]) ∧ t = List.intercalate [' '] ws := by
  refine ⟨words t, ?_, fun w => words_of_mem_words, h.normalize_eq.symm⟩
  intro hnil
  have heq := h.normalize_eq
  rw [normalize, hnil] at heq
  exact h.ne_nil heq.symm

theorem isNormal_of_forall (hne : t ≠ []) (h : ∀ c ∈ t, isBlank c = false) : IsNormal t := by
  have hword : ∀ w ∈ [t], words w = [w] := by
    intro w hw
    rw [List.mem_singleton.mp hw]
    exact words_of_forall hne h
  simpa using isNormal_intercalate (List.cons_ne_nil t []) hword

theorem intercalate_append_of_ne_nil {vs ws : List Text} (hvs : vs ≠ []) (hws : ws ≠ []) :
    List.intercalate [' '] (vs ++ ws) =
      List.intercalate [' '] vs ++ ' ' :: List.intercalate [' '] ws := by
  induction vs with
  | nil => exact absurd rfl hvs
  | cons v vs ih =>
    by_cases hnil : vs = []
    · subst hnil
      rw [List.intercalate_singleton, List.singleton_append, List.intercalate_cons_of_ne_nil hws,
        List.append_assoc]
      rfl
    · rw [List.cons_append, List.intercalate_cons_of_ne_nil hnil,
        List.intercalate_cons_of_ne_nil (List.append_ne_nil_of_left_ne_nil hnil ws), ih hnil]
      simp only [List.append_assoc]

/-- Normal texts with a space between them are normal. -/
theorem IsNormal.append_space (hs : IsNormal s) (ht : IsNormal t) : IsNormal (s ++ ' ' :: t) := by
  obtain ⟨vs, hvs, hv, rfl⟩ := hs.exists_words
  obtain ⟨ws, hws, hw, rfl⟩ := ht.exists_words
  rw [← intercalate_append_of_ne_nil hvs hws]
  apply isNormal_intercalate (List.append_ne_nil_of_left_ne_nil hvs ws)
  intro w hmem
  exact (List.mem_append.mp hmem).elim (hv w) (hw w)

/-- A normal text with a sign at its end is normal. -/
theorem IsNormal.concat (ht : IsNormal t) (hc : isBlank c = false) : IsNormal (t ++ [c]) := by
  obtain ⟨ws, hne, hwords, rfl⟩ := ht.exists_words
  obtain ⟨init, w, rfl⟩ : ∃ init w, ws = init ++ [w] :=
    ⟨ws.dropLast, ws.getLast hne, (List.dropLast_concat_getLast hne).symm⟩
  have hlast : IsNormal (w ++ [c]) := by
    apply isNormal_of_forall (List.append_ne_nil_of_right_ne_nil w (List.cons_ne_nil c []))
    intro d hd
    rcases List.mem_append.mp hd with hd | hd
    · have hw : w ∈ words w := by simp [hwords w (by simp)]
      exact isBlank_eq_false_of_mem_words hw d hd
    · rwa [List.mem_singleton.mp hd]
  by_cases hinit : init = []
  · subst hinit
    simpa using hlast
  · have hfront := isNormal_intercalate hinit fun v hv =>
      hwords v (List.mem_append_left [w] hv)
    rw [intercalate_append_of_ne_nil hinit (List.cons_ne_nil w []), List.intercalate_singleton,
      List.append_assoc, List.cons_append]
    exact hfront.append_space hlast

/-- Filling words into lines does not change the normal form of a text. -/
theorem normalize_unlines_wrap {indent : Text} (h : IsBlank indent) (width : Nat) (t : Text) :
    normalize (unlines (wrap width indent t)) = normalize t := by
  rw [normalize, words_unlines_wrap h, normalize]

end Normal

end Text

end Bindery
