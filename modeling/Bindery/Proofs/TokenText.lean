import Bindery.Proofs.ScanFrame
import Bindery.Proofs.Blank

/-!
# Every token has a text

What the scanner is inside of has begun with a character, so whatever token it becomes has a text.
And the tokens of a header, with the gaps before them, take up no more bytes than the header.
-/

namespace Bindery.Header

/-- The characters that make up a token have begun. A number begins with a digit, so a sign at its
end is not all of it; a comment has its slash, which is no blank. -/
def ScanMode.IsBegun : ScanMode → Prop
  | .between | .backslash _ | .carriageReturn _ | .slash | .lineComment _ => True
  | .word read | .stray read | .quoted _ _ read | .broken _ read _ | .suffix _ read _
  | .delimiter read _ | .raw _ read | .directive _ read => read ≠ []
  | .code _ escape _ => escape ≠ []
  | .number read => ∃ c ∈ read.getLast?, c.isDigit = true
  | .blockComment _ read => '/' ∈ read

/-- Each token has a text. -/
def Token.HaveTexts (ts : List Token) : Prop := ∀ t ∈ ts, t.text ≠ []

namespace Token.HaveTexts

variable {ts us : List Token}

theorem nil : HaveTexts [] := fun _ ht => absurd ht List.not_mem_nil

theorem cons {t : Token} (ht : t.text ≠ []) (h : HaveTexts ts) : HaveTexts (t :: ts) :=
  List.forall_mem_cons.mpr ⟨ht, h⟩

theorem append (h : HaveTexts ts) (h' : HaveTexts us) : HaveTexts (ts ++ us) :=
  List.forall_mem_append.mpr ⟨h, h'⟩

theorem sublist (h : HaveTexts ts) (hus : us.Sublist ts) : HaveTexts us :=
  fun t ht => h t (hus.subset ht)

/-- Tokens take up a byte at least. -/
theorem widthOf_pos (h : HaveTexts ts) (hne : ts ≠ []) : 0 < widthOf ts := by
  obtain ⟨t, ts, rfl⟩ := List.exists_cons_of_ne_nil hne
  obtain ⟨c, text, htext⟩ := List.exists_cons_of_ne_nil (h t List.mem_cons_self)
  have hc := c.utf8Size_pos
  rw [widthOf, width, htext, Text.byteSize_cons]
  omega

end Token.HaveTexts

namespace Scanner

open Token

/-- What has been found has texts, and what is being read has begun. -/
structure IsSound (s : Scanner) : Prop where
  /-- What is being read has begun. -/
  begun : s.mode.IsBegun
  /-- The tokens have texts. -/
  texts : HaveTexts s.tokens

variable {s : Scanner}

theorem texts_emit (h : HaveTexts s.tokens) (kind : TokenKind) {read : Text} (hread : read ≠ []) :
    HaveTexts (s.emit kind read).tokens :=
  h.cons (mt List.reverse_eq_nil_iff.mp hread)

theorem texts_emitWord (h : HaveTexts s.tokens) (word : Text) :
    HaveTexts (s.emitWord word).tokens := by
  unfold emitWord
  split
  · exact h
  · next hword => exact texts_emit h .word (by rwa [List.isEmpty_iff] at hword)

/-- A sign at the end of a number is a token of its own, and digits stand before it. -/
theorem texts_emitNumber (h : HaveTexts s.tokens) {read : Text}
    (hread : ∃ c ∈ read.getLast?, c.isDigit = true) : HaveTexts (s.emitNumber read).tokens := by
  obtain ⟨d, hd, hdigit⟩ := hread
  cases read with
  | nil => cases hd
  | cons c before =>
    unfold emitNumber
    dsimp only
    split
    · next hsign =>
      have hbefore : before ≠ [] := by
        rintro rfl
        cases hd
        rcases Bool.or_eq_true_iff.mp hsign with hplus | hminus
        · rw [eq_of_beq hplus] at hdigit
          exact absurd hdigit (by decide)
        · rw [eq_of_beq hminus] at hdigit
          exact absurd hdigit (by decide)
      exact texts_emit (texts_emit h _ hbefore) .mark (List.cons_ne_nil c [])
    · exact texts_emit h _ (List.cons_ne_nil c before)

theorem texts_emitDirective (h : HaveTexts s.tokens) {read : Text} (hread : read ≠ [])
    (ended : Bool) : HaveTexts (s.emitDirective read ended).tokens :=
  texts_emit h (.directive ended) hread

theorem texts_emitQuoted (h : HaveTexts s.tokens) (quote : Char) {read : Text} (hread : read ≠ [])
    (suffix : Text) : HaveTexts (s.emitQuoted quote read suffix).tokens :=
  texts_emit h _ (List.append_ne_nil_of_right_ne_nil suffix hread)

theorem begun_of_openQuoted? {word : Text} {c : Char} {mode : ScanMode}
    (h : openQuoted? word c = some mode) : mode.IsBegun := by
  unfold openQuoted? at h
  split at h
  · cases h
    exact List.cons_ne_nil c word
  · split at h
    · cases h
      exact List.cons_ne_nil c word
    · cases h

theorem isSound_advanceBetween (h : HaveTexts s.tokens) (c : Char) :
    (s.advanceBetween c).IsSound := by
  unfold advanceBetween
  split_ifs with _ _ _ hdigit
  · exact ⟨trivial, h⟩
  · exact ⟨trivial, h⟩
  · exact ⟨List.cons_ne_nil c [], h⟩
  · exact ⟨⟨c, rfl, hdigit⟩, h⟩
  · exact ⟨List.cons_ne_nil c [], h⟩
  · exact ⟨trivial, h⟩
  · exact ⟨List.cons_ne_nil c [], h⟩
  · exact ⟨trivial, texts_emit h .mark (List.cons_ne_nil c [])⟩
  · exact ⟨List.cons_ne_nil c [], h⟩

theorem isSound_advanceBackslash (h : HaveTexts s.tokens) (word : Text) (c : Char) :
    (s.advanceBackslash word c).IsSound := by
  unfold advanceBackslash
  split_ifs
  · exact ⟨List.cons_ne_nil 'u' _, h⟩
  · exact ⟨List.cons_ne_nil 'U' _, h⟩
  · exact ⟨trivial, texts_emitWord h word⟩
  · exact ⟨trivial, h⟩
  · exact isSound_advanceBetween
      (texts_emit (texts_emitWord h word) .stray (List.cons_ne_nil '\\' [])) c

section Directive

variable {read : Text} (hread : read ≠ [])

include hread

theorem isSound_advanceBody (h : HaveTexts s.tokens) (c : Char) :
    (s.advanceBody read c).IsSound := by
  unfold advanceBody
  split_ifs
  · exact ⟨List.cons_ne_nil c read, h⟩
  · exact ⟨trivial, texts_emitDirective h hread true⟩
  · exact ⟨List.cons_ne_nil c read, h⟩
  · exact ⟨List.cons_ne_nil c read, h⟩
  · exact ⟨List.cons_ne_nil c read, h⟩

theorem isSound_advanceDirective (h : HaveTexts s.tokens) (phase : DirectivePhase) (c : Char) :
    (s.advanceDirective phase read c).IsSound := by
  have hgoesOn : ∀ phase, (s.become (.directive phase (c :: read))).IsSound := fun _ =>
    ⟨List.cons_ne_nil c read, h⟩
  unfold advanceDirective
  cases phase with
  | name =>
    dsimp only
    split_ifs
    · exact hgoesOn _
    · exact hgoesOn _
    · exact isSound_advanceBetween (texts_emitDirective h hread true) c
    · exact isSound_advanceBody hread h c
  | body => exact isSound_advanceBody hread h c
  | escape =>
    dsimp only
    split_ifs
    · exact hgoesOn _
    · exact hgoesOn _
  | slash argued =>
    dsimp only
    split_ifs
    · exact hgoesOn _
    · exact hgoesOn _
    · exact isSound_advanceBody hread h c
  | comment star =>
    dsimp only
    split_ifs
    · exact hgoesOn _
    · exact hgoesOn _

end Directive

theorem isSound_advanceSuffix (h : HaveTexts s.tokens) (quote : Char) {read : Text}
    (hread : read ≠ []) (suffix : Text) (c : Char) :
    (s.advanceSuffix quote read suffix c).IsSound := by
  unfold advanceSuffix
  generalize hquoted : (if suffix.isEmpty then none else openQuoted? suffix c) = quoted
  generalize (if suffix.isEmpty then c.isAlpha || c == '_' else Text.isWord c) = goesOn
  cases goesOn with
  | true => exact ⟨hread, h⟩
  | false =>
    rw [if_neg Bool.false_ne_true]
    cases quoted with
    | none => exact isSound_advanceBetween (texts_emitQuoted h quote hread suffix) c
    | some mode =>
      have hmode : openQuoted? suffix c = some mode := by
        split at hquoted
        · cases hquoted
        · exact hquoted
      exact ⟨begun_of_openQuoted? hmode, texts_emitQuoted h quote hread []⟩

/-- **A character more.** -/
theorem IsSound.step (h : s.IsSound) (c : Char) : (s.step c).IsSound := by
  obtain ⟨hbegun, htexts⟩ := h
  have hstray : ∀ {read : Text}, read ≠ [] → ((s.emit .stray read).advanceBetween c).IsSound :=
    fun hread => isSound_advanceBetween (texts_emit htexts .stray hread) c
  unfold Scanner.step
  generalize s.mode = mode at hbegun ⊢
  cases mode with
  | between => exact isSound_advanceBetween htexts c
  | word read =>
    dsimp only
    cases hquoted : openQuoted? read c with
    | none =>
      dsimp only
      split_ifs
      · exact ⟨List.cons_ne_nil c read, htexts⟩
      · exact ⟨trivial, htexts⟩
      · exact isSound_advanceBetween (texts_emit htexts .word hbegun) c
    | some mode =>
      dsimp only
      split_ifs
      · exact ⟨List.cons_ne_nil c read, htexts⟩
      · exact ⟨trivial, htexts⟩
      · exact ⟨begun_of_openQuoted? hquoted, htexts⟩
  | backslash word => exact isSound_advanceBackslash htexts word c
  | carriageReturn word =>
    dsimp only
    split_ifs
    · exact ⟨trivial, texts_emitWord htexts word⟩
    · refine isSound_advanceBetween ?_ c
      exact texts_emit (texts_emitWord htexts word) .stray (List.cons_ne_nil '\\' [])
  | code word escape wanted =>
    dsimp only
    split_ifs
    · exact ⟨List.cons_ne_nil c _, htexts⟩
    · exact ⟨List.cons_ne_nil c escape, htexts⟩
    · exact isSound_advanceBetween (texts_emit (texts_emitWord htexts word) .stray hbegun) c
  | number read =>
    have hnumber : ScanMode.IsBegun (.number (c :: read)) := by
      obtain ⟨d, hd, hdigit⟩ := hbegun
      cases read with
      | nil => cases hd
      | cons e read => exact ⟨d, by rwa [List.getLast?_cons_cons], hdigit⟩
    dsimp only
    split_ifs
    · exact ⟨hnumber, htexts⟩
    · exact ⟨hnumber, htexts⟩
    · exact isSound_advanceBetween (texts_emitNumber htexts hbegun) c
  | stray read =>
    dsimp only
    split_ifs
    · exact hstray hbegun
    · exact ⟨List.cons_ne_nil c read, htexts⟩
  | quoted quote escaped read =>
    dsimp only
    split_ifs
    · exact ⟨List.cons_ne_nil c read, htexts⟩
    · exact ⟨List.cons_ne_nil c read, htexts⟩
    · exact ⟨List.cons_ne_nil c read, htexts⟩
    · exact ⟨hbegun, htexts⟩
    · exact ⟨List.cons_ne_nil c read, htexts⟩
  | broken quote read blanks =>
    dsimp only
    split_ifs
    · exact ⟨hbegun, htexts⟩
    · exact ⟨List.cons_ne_nil c _, htexts⟩
    · exact ⟨List.cons_ne_nil c _, htexts⟩
    · exact isSound_advanceBetween (s := { s.emit .stray read with gap := blanks })
        (texts_emit htexts .stray hbegun) c
  | suffix quote read suffix =>
    exact isSound_advanceSuffix htexts quote hbegun suffix c
  | delimiter read delimiter =>
    dsimp only
    split_ifs
    · exact ⟨List.cons_ne_nil c read, htexts⟩
    · exact hstray hbegun
    · exact ⟨List.cons_ne_nil c read, htexts⟩
  | raw delimiter read =>
    dsimp only
    split_ifs
    · exact ⟨List.cons_ne_nil c read, htexts⟩
    · exact ⟨List.cons_ne_nil c read, htexts⟩
  | slash =>
    dsimp only
    split_ifs
    · exact ⟨trivial, htexts⟩
    · exact ⟨List.mem_cons_of_mem _ List.mem_cons_self, htexts⟩
    · exact isSound_advanceBetween (texts_emit htexts .mark (List.cons_ne_nil '/' [])) c
  | lineComment escaped =>
    dsimp only
    split_ifs
    · exact ⟨trivial, htexts⟩
    · exact ⟨trivial, htexts⟩
    · exact ⟨trivial, htexts⟩
  | blockComment star read =>
    dsimp only
    split_ifs
    · exact ⟨trivial, htexts⟩
    · exact ⟨List.mem_cons_of_mem c hbegun, htexts⟩
  | directive phase read =>
    exact isSound_advanceDirective hbegun htexts phase c

theorem IsSound.run (h : s.IsSound) (t : Text) : (s.run t).IsSound := by
  induction t generalizing s with
  | nil => exact h
  | cons c t ih => exact ih (h.step c)

/-- The token that a text ends in has a text too. -/
theorem IsSound.finish (h : s.IsSound) : HaveTexts s.finish.tokens := by
  obtain ⟨hbegun, htexts⟩ := h
  have hbackslash : ∀ word, HaveTexts ((s.emitWord word).emit .stray ['\\']).tokens := fun word =>
    texts_emit (texts_emitWord htexts word) .stray (List.cons_ne_nil '\\' [])
  unfold Scanner.finish
  generalize s.mode = mode at hbegun ⊢
  cases mode with
  | between => exact htexts
  | lineComment escaped => exact htexts
  | word read => exact texts_emit htexts .word hbegun
  | backslash word => exact hbackslash word
  | carriageReturn word => exact hbackslash word
  | code word escape wanted =>
    exact texts_emit (texts_emitWord htexts word) .stray hbegun
  | number read => exact texts_emitNumber htexts hbegun
  | suffix quote read suffix => exact texts_emitQuoted htexts quote hbegun suffix
  | slash => exact texts_emit htexts .mark (List.cons_ne_nil '/' [])
  | blockComment star read =>
    refine texts_emit htexts .stray fun hnil => ?_
    have hblank := Text.trimStart_eq_nil_iff.mp hnil '/' hbegun
    exact absurd hblank (by decide)
  | directive phase read => exact texts_emitDirective htexts hbegun _
  | stray read => exact texts_emit htexts .stray hbegun
  | quoted quote escaped read => exact texts_emit htexts .stray hbegun
  | broken quote read blanks => exact texts_emit htexts .stray hbegun
  | delimiter read delimiter => exact texts_emit htexts .stray hbegun
  | raw delimiter read => exact texts_emit htexts .stray hbegun

/-! ### Widths -/

theorem byteSize_trimStart_le (t : Text) : Text.byteSize (Text.trimStart t) ≤ Text.byteSize t := by
  obtain ⟨lead, _, ht⟩ := Text.exists_blank_append_trimStart t
  have hsize := congrArg Text.byteSize ht
  rw [Text.byteSize_append] at hsize
  omega

/-- What is still being read at the end of a text becomes a token, or is left out. -/
theorem placed_finish_le (s : Scanner) : s.finish.placed ≤ s.size := by
  unfold finish size
  cases hmode : s.mode with
  | blockComment star read =>
    rw [placed_emit]
    exact Nat.add_le_add_left (byteSize_trimStart_le read) _
  | _ =>
    simp only [placed_emit, placed_emitWord, placed_emitNumber, placed_emitDirective,
      placed_emitQuoted, ScanMode.pending, Text.byteSize_cons, Text.byteSize_append,
      Text.byteSize_nil]
    omega

end Scanner

variable (source : Text)

theorem isSound_scan : (scan source).IsSound := by
  have hempty : Scanner.IsSound {} := ⟨trivial, Token.HaveTexts.nil⟩
  cases source with
  | nil => exact hempty
  | cons c t =>
    rw [scan]
    split
    · exact Scanner.IsSound.run (s := { gap := [c] }) ⟨trivial, Token.HaveTexts.nil⟩ t
    · exact hempty.run (c :: t)

/-- **Every token of a header has a text.** -/
theorem haveTexts_tokens : Token.HaveTexts (tokens source) := fun t ht =>
  (isSound_scan source).finish t (List.mem_reverse.mp ht)

/-- **The tokens of a header** take up no more bytes than the header. -/
theorem widthOf_tokens_le : Token.widthOf (tokens source) ≤ Text.byteSize source := by
  have hplaced := (scan source).placed_finish_le
  rw [size_scan, Scanner.placed] at hplaced
  rw [tokens, Token.widthOf_reverse]
  omega

end Bindery.Header
