import Bindery.Header.Scanner
import Mathlib.Tactic.IntervalCases

/-!
# Tokens from characters

A word, a number or a separator that is written behind blanks is read as the token that it is. Words
and numbers may go on, so only a separator, a blank or the end of the text finishes them. `Reads`
says of a text that it is read as some tokens wherever it stands, and such texts can be put
together.
-/

namespace Bindery.Header

/-- What holds of the characters of a text is decided on them, and not on all characters. -/
instance (priority := high) decidableForallMem (P : Char → Prop) [DecidablePred P] (t : Text) :
    Decidable (∀ c ∈ t, P c) :=
  List.decidableBAll P t

/-- A word behind blanks. -/
def Token.ofWord (gap text : Text) : Token := ⟨.word, text, gap⟩

/-- A whole number behind blanks. -/
def Token.ofNumber (gap : Text) (n : Nat) : Token := ⟨.number, Text.ofNat n, gap⟩

/-- A punctuation character behind blanks. -/
def Token.ofMark (gap : Text) (c : Char) : Token := ⟨.mark, [c], gap⟩

namespace Token

variable {gap w : Text} {c : Char}

@[simp] theorem isWord_ofWord : (ofWord gap w).isWord = true := rfl

@[simp] theorem isTheWord_ofWord (u : Text) : (ofWord gap w).isTheWord u = (w == u) := rfl

@[simp] theorem isOneOf_ofWord (words : List Text) :
    (ofWord gap w).isOneOf words = words.contains w := rfl

@[simp] theorem isMark_ofMark (d : Char) : (ofMark gap c).isMark d = (c == d) := by
  simp [isMark, ofMark]

end Token

/-- Whether a text is an identifier or a keyword. -/
def isName : Text → Bool
  | [] => false
  | c :: t => isNameStart c && t.all isNamePart

/-- The mark of byte order begins no name. -/
theorem isNameStart_byteOrderMark : isNameStart byteOrderMark = false := by
  have htable : (Text.nameStartIntervals.toList.any fun interval =>
      interval.1 ≤ byteOrderMark.toNat && byteOrderMark.toNat ≤ interval.2) = false := by
    decide +kernel
  rw [isNameStart, if_neg (by decide), Text.inIntervals, ← Array.any_toList]
  exact htable

/-- The blanks that separate tokens. -/
def spaces : Text := ['\t', '\n', '\x0b', '\x0c', '\r', ' ']

/-- Punctuation characters that are tokens wherever they stand between tokens. -/
def separators : Text := ['(', ')', '[', ']', '{', '}', ';', ',', '*', '=']

/-- Characters that finish a word or a number before them. -/
def delimiters : Text := spaces ++ separators

theorem mem_spaces_of_isSpace {c : Char} (h : isSpace c = true) : c ∈ spaces := by
  simp only [isSpace, Bool.or_eq_true, Bool.and_eq_true, decide_eq_true_eq, beq_iff_eq] at h
  rcases h with ⟨hlow, hhigh⟩ | rfl
  · rw [← Char.ofNat_toNat c]
    interval_cases c.toNat <;> decide
  · decide

theorem isSpace_of_mem_nil : ∀ c ∈ ([] : Text), isSpace c = true := by decide

theorem isSpace_of_mem_space : ∀ c ∈ ([' '] : Text), isSpace c = true := by decide

theorem mem_delimiters_of_isSpace {c : Char} (h : isSpace c = true) : c ∈ delimiters :=
  List.mem_append_left _ (mem_spaces_of_isSpace h)

/-- A delimiter belongs to no word and no number, and begins no literal behind a word. -/
private theorem delimiters_finish : ∀ c ∈ delimiters,
    isNamePart c = false ∧ c ≠ '\\' ∧ c ≠ '.' ∧ c ≠ '\'' ∧ c ≠ '"' ∧ c ≠ '+' ∧ c ≠ '-' := by
  decide

/-- A separator is read as a mark. -/
private theorem separators_advance : ∀ c ∈ separators,
    isSpace c = false ∧ c ≠ '\\' ∧ isNameStart c = false ∧ c.isDigit = false ∧ c ≠ '"' ∧
      c ≠ '\'' ∧ c ≠ '/' ∧ c ≠ '#' ∧ isPunctuation c = true := by
  with_unfolding_all decide

/-- No digit is read as anything else. -/
private theorem digits_advance : ∀ c ∈ "0123456789".toList,
    isSpace c = false ∧ c ≠ '\\' ∧ isNameStart c = false ∧ isNamePart c = true ∧ c ≠ '+' ∧
      c ≠ '-' := by
  decide

theorem mem_digits_of_isDigit {c : Char} (h : c.isDigit = true) : c ∈ "0123456789".toList := by
  rw [Char.isDigit, Bool.and_eq_true, decide_eq_true_eq, decide_eq_true_eq] at h
  have hlow : 48 ≤ c.toNat := h.1
  have hhigh : c.toNat ≤ 57 := h.2
  rw [← Char.ofNat_toNat c]
  interval_cases c.toNat <;> decide

/-! ## Numbers -/

namespace Number

theorem dropDigits_of_forall {t : Text} (h : ∀ c ∈ t, c.isDigit = true) :
    dropDigits Char.isDigit t = [] := by
  induction t with
  | nil => rfl
  | cons c t ih =>
    have hc := h c List.mem_cons_self
    have hquote : c ≠ '\'' := by
      rintro rfl
      cases hc
    rw [dropDigits.eq_3 _ _ _ fun d u he => absurd he hquote, if_pos hc]
    exact ih fun d hd => h d (List.mem_cons_of_mem c hd)

/-- Digits without a leading zero are a number. -/
theorem isNumber_of_forall {t : Text} (h : ∀ c ∈ t, c.isDigit = true)
    (hzero : t.head? = some '0' → t = ['0']) : isNumber t = true := by
  have hfraction : dropFraction Char.isDigit isDecimalSign (dropDigits Char.isDigit t) =
      ([], false) := by
    rw [dropDigits_of_forall h]
    rfl
  rcases t with _ | ⟨c, u⟩
  · rfl
  by_cases hc : c = '0'
  · subst hc
    rw [hzero rfl]
    decide
  have hdot : c ≠ '.' := by
    rintro rfl
    cases h '.' List.mem_cons_self
  have hplain : isPlain (c :: u) = true := by
    rw [isPlain, hfraction]
    dsimp only
    split
    · next he => exact absurd (List.cons.inj he).1 hdot
    · next he => exact absurd (List.cons.inj he).1 hc
    · rfl
  rw [isNumber]
  · exact hplain
  · intro d v he
    exact absurd (List.cons.inj he).1 hc

end Number

/-- A number above zero has no leading zero. -/
theorem eq_zero_of_head?_ofNat {n : Nat} (h : (Text.ofNat n).head? = some '0') : n = 0 := by
  induction n using Nat.strong_induction_on with
  | _ n ih =>
    rw [Text.ofNat] at h
    by_cases hn : n < 10
    · rw [Nat.toDigits_of_lt_base hn, List.head?_cons, Option.some.injEq] at h
      interval_cases n <;> first | rfl | cases h
    · rw [Nat.toDigits_of_base_le (by decide) (by omega),
        List.head?_append, List.head?_eq_some_head Nat.toDigits_ne_nil, Option.some_or,
        ← List.head?_eq_some_head Nat.toDigits_ne_nil] at h
      have := ih (n / 10) (by omega) h
      omega

theorem isDigit_of_mem_ofNat {n : Nat} {c : Char} (h : c ∈ Text.ofNat n) : c.isDigit = true :=
  Nat.isDigit_of_mem_toDigits (by decide) (by decide) h

theorem isNumber_ofNat (n : Nat) : Number.isNumber (Text.ofNat n) = true := by
  refine Number.isNumber_of_forall (fun c => isDigit_of_mem_ofNat) fun h => ?_
  rw [eq_zero_of_head?_ofNat h]
  decide

/-! ## Scanning -/

namespace Scanner

/-- Between tokens and directly behind some, the last one first. -/
def settled (found : List Token) : Scanner := { tokens := found }

/-- The scanner has some tokens behind it, the last one first, as soon as a delimiter or the end of
the text follows; where it is `closed`, whatever follows. -/
structure Holds (s : Scanner) (found : List Token) (closed : Bool) : Prop where
  /-- At the end of the text these are the tokens. -/
  finish : s.finish.tokens = found
  /-- What follows is read as it is read between tokens. -/
  step : ∀ c, closed = true ∨ c ∈ delimiters → s.step c = (settled found).step c

variable {s : Scanner} {found : List Token} {closed : Bool} {gap : Text}

theorem holds_settled : (settled found).Holds found true := ⟨rfl, fun _ _ => rfl⟩

/-- What is closed whatever follows is closed by a delimiter. -/
theorem Holds.loosen (h : s.Holds found true) : s.Holds found closed :=
  ⟨h.finish, fun c _ => h.step c (Or.inl rfl)⟩

theorem Holds.run_cons (h : s.Holds found closed) {c : Char}
    (hc : closed = true ∨ c ∈ delimiters) (t : Text) :
    s.run (c :: t) = (settled found).run (c :: t) := by
  rw [run, List.foldl_cons, h.step c hc]
  rfl

/-- Blanks go into the gap. -/
theorem run_gap (hgap : ∀ c ∈ gap, isSpace c = true) (before : Text) :
    run { gap := before, tokens := found } gap =
      { gap := gap.reverse ++ before, tokens := found } := by
  induction gap generalizing before with
  | nil => rfl
  | cons c gap ih =>
    have hstep : step { gap := before, tokens := found } c =
        { gap := c :: before, tokens := found } := if_pos (hgap c List.mem_cons_self)
    rw [run, List.foldl_cons, hstep, List.reverse_cons, List.append_assoc]
    exact ih (fun d hd => hgap d (List.mem_cons_of_mem c hd)) (c :: before)

/-- Blanks before a character go into the gap, if the character or a blank finishes what is before
it. -/
theorem Holds.run_gap_cons (h : s.Holds found closed) (hgap : ∀ c ∈ gap, isSpace c = true)
    {c : Char} (hc : closed = true ∨ gap ≠ [] ∨ c ∈ delimiters) (t : Text) :
    s.run (gap ++ c :: t) = run { gap := gap.reverse, tokens := found } (c :: t) := by
  have hsettled : s.run (gap ++ c :: t) = (settled found).run (gap ++ c :: t) := by
    cases gap with
    | nil => exact h.run_cons (hc.imp_right fun hc => hc.resolve_left fun hne => hne rfl) t
    | cons d gap =>
      exact h.run_cons (Or.inr (mem_delimiters_of_isSpace (hgap d List.mem_cons_self))) _
  rw [hsettled, run_append, settled, run_gap hgap, List.append_nil]

/-- Blanks at the end of a text belong to no token. -/
theorem Holds.finish_run_gap (h : s.Holds found closed) (hgap : ∀ c ∈ gap, isSpace c = true) :
    (s.run gap).finish.tokens = found := by
  cases gap with
  | nil => exact h.finish
  | cons c gap =>
    rw [h.run_cons (Or.inr (mem_delimiters_of_isSpace (hgap c List.mem_cons_self))), settled,
      run_gap hgap]
    rfl

/-! ### Words -/

private theorem advanceBetween_of_isNameStart {c : Char} (hc : isNameStart c = true)
    (s : Scanner) : s.advanceBetween c = s.become (.word [c]) := by
  have hspace : isSpace c = false := by
    rw [Bool.eq_false_iff]
    intro hspace
    have hnot : ∀ d ∈ spaces, isNameStart d = false := by decide
    rw [hnot c (mem_spaces_of_isSpace hspace)] at hc
    cases hc
  have hbackslash : (c == '\\') = false := by
    rw [beq_eq_false_iff_ne]
    rintro rfl
    revert hc
    decide
  simp only [advanceBetween, hspace, hbackslash, hc, Bool.false_eq_true, if_false, if_true]

private theorem run_nameParts {w : Text} (hw : ∀ c ∈ w, isNamePart c = true) (read : Text) :
    run { mode := .word read, gap := gap, tokens := found } w =
      { mode := .word (w.reverse ++ read), gap := gap, tokens := found } := by
  induction w generalizing read with
  | nil => rfl
  | cons c w ih =>
    have hstep : step { mode := .word read, gap := gap, tokens := found } c =
        { mode := .word (c :: read), gap := gap, tokens := found } :=
      if_pos (hw c List.mem_cons_self)
    rw [run, List.foldl_cons, hstep, List.reverse_cons, List.append_assoc]
    exact ih (fun d hd => hw d (List.mem_cons_of_mem c hd)) (c :: read)

/-- In a word, a delimiter finishes it. -/
private theorem holds_word (gap w : Text) :
    Holds { mode := .word w.reverse, gap := gap.reverse, tokens := found }
      (Token.ofWord gap w :: found) false := by
  have hemit : emit { mode := .word w.reverse, gap := gap.reverse, tokens := found } .word
      w.reverse = settled (Token.ofWord gap w :: found) := by
    simp only [emit, List.reverse_reverse]
    rfl
  constructor
  · exact congrArg Scanner.tokens hemit
  · intro c hc
    obtain ⟨hpart, hbackslash, -, hquote, hdouble, -, -⟩ :=
      delimiters_finish c (hc.resolve_left Bool.false_ne_true)
    have hopen : openQuoted? w.reverse c = none := by
      simp [openQuoted?, hquote, hdouble]
    simp only [step, hpart, hopen, beq_eq_false_iff_ne.mpr hbackslash, Bool.false_eq_true, if_false,
      hemit]
    rfl

/-! ### Numbers -/

private theorem advanceBetween_of_isDigit {c : Char} (hc : c.isDigit = true) (s : Scanner) :
    s.advanceBetween c = s.become (.number [c]) := by
  obtain ⟨hspace, hbackslash, hstart, -, -, -⟩ := digits_advance c (mem_digits_of_isDigit hc)
  simp only [advanceBetween, hspace, beq_eq_false_iff_ne.mpr hbackslash, hstart, hc,
    Bool.false_eq_true, if_false, if_true]

private theorem run_digits {t : Text} (ht : ∀ c ∈ t, c.isDigit = true) (read : Text) :
    run { mode := .number read, gap := gap, tokens := found } t =
      { mode := .number (t.reverse ++ read), gap := gap, tokens := found } := by
  induction t generalizing read with
  | nil => rfl
  | cons c t ih =>
    have hpart := (digits_advance c (mem_digits_of_isDigit (ht c List.mem_cons_self))).2.2.2.1
    have hstep : step { mode := .number read, gap := gap, tokens := found } c =
        { mode := .number (c :: read), gap := gap, tokens := found } := by
      simp only [step, hpart, Bool.true_or, if_true]
      rfl
    rw [run, List.foldl_cons, hstep, List.reverse_cons, List.append_assoc]
    exact ih (fun d hd => ht d (List.mem_cons_of_mem c hd)) (c :: read)

/-- In a number, a delimiter finishes it. -/
private theorem holds_number (found : List Token) (gap : Text) (n : Nat) :
    Holds { mode := .number (Text.ofNat n).reverse, gap := gap.reverse, tokens := found }
      (Token.ofNumber gap n :: found) false := by
  have hemit : emitNumber
      { mode := .number (Text.ofNat n).reverse, gap := gap.reverse, tokens := found }
      (Text.ofNat n).reverse = settled (Token.ofNumber gap n :: found) := by
    have hdigits : ∀ c ∈ (Text.ofNat n).reverse, c ≠ '+' ∧ c ≠ '-' := fun c hc =>
      (digits_advance c (mem_digits_of_isDigit
        (isDigit_of_mem_ofNat (List.mem_reverse.mp hc)))).2.2.2.2
    cases hread : (Text.ofNat n).reverse with
    | nil => exact absurd (List.reverse_eq_nil_iff.mp hread) Nat.toDigits_ne_nil
    | cons c read =>
      rw [hread] at hdigits
      obtain ⟨hplus, hminus⟩ := hdigits c List.mem_cons_self
      simp only [emitNumber, beq_eq_false_iff_ne.mpr hplus, beq_eq_false_iff_ne.mpr hminus,
        Bool.or_self, Bool.false_eq_true, if_false, emit, ← hread, List.reverse_reverse,
        isNumber_ofNat, if_true]
      rfl
  constructor
  · exact congrArg Scanner.tokens hemit
  · intro c hc
    obtain ⟨hpart, -, hdot, hquote, -, hplus, hminus⟩ :=
      delimiters_finish c (hc.resolve_left Bool.false_ne_true)
    simp only [step, hpart, beq_eq_false_iff_ne.mpr hdot, beq_eq_false_iff_ne.mpr hquote,
      beq_eq_false_iff_ne.mpr hplus, beq_eq_false_iff_ne.mpr hminus, Bool.or_self, Bool.false_and,
      Bool.false_eq_true, if_false, hemit]
    rfl

end Scanner

/-! ## Texts that are read as tokens -/

/-- A text is read as some tokens. If it must stand `apart`, only where no word and no number
directly before it could go on; what it ends with may go on unless it is `closed`. -/
def Reads (apart : Bool) (t : Text) (ts : List Token) (closed : Bool) : Prop :=
  ∀ (s : Scanner) (found : List Token), s.Holds found apart →
    (s.run t).Holds (ts.reverse ++ found) closed

namespace Reads

open Scanner

variable {apart closed : Bool} {gap t u : Text} {ts us : List Token}

theorem nil : Reads closed [] [] closed := fun _ _ h => h

theorem append {middle : Bool} (ht : Reads apart t ts middle) (hu : Reads middle u us closed) :
    Reads apart (t ++ u) (ts ++ us) closed := by
  intro s found h
  rw [run_append, List.reverse_append, List.append_assoc]
  exact hu _ _ (ht s found h)

/-- What may stand anywhere may stand apart. -/
theorem weaken (h : Reads false t ts closed) : Reads apart t ts closed := by
  intro s found hs
  cases apart with
  | false => exact h s found hs
  | true => exact h s found hs.loosen

/-- What nothing goes on with may be followed by a delimiter. -/
theorem loosen (h : Reads apart t ts true) : Reads apart t ts closed :=
  fun s found hs => (h s found hs).loosen

/-- A word must stand apart unless blanks stand before it. -/
theorem word (hgap : ∀ c ∈ gap, isSpace c = true) {w : Text} (hw : isName w = true) :
    Reads gap.isEmpty (gap ++ w) [Token.ofWord gap w] false := by
  intro s found hs
  cases w with
  | nil => cases hw
  | cons c w =>
    rw [isName, Bool.and_eq_true, List.all_eq_true] at hw
    have hfirst : gap.isEmpty = true ∨ gap ≠ [] ∨ c ∈ delimiters := by
      cases gap <;> simp
    have hrun := hs.run_gap_cons hgap hfirst w
    have hstep : step { gap := gap.reverse, tokens := found } c =
        { mode := .word [c], gap := gap.reverse, tokens := found } :=
      advanceBetween_of_isNameStart hw.1 _
    rw [hrun, run, List.foldl_cons, hstep, ← run, run_nameParts hw.2, ← List.reverse_cons]
    exact holds_word gap (c :: w)

/-- A number must stand apart unless blanks stand before it. -/
theorem number (hgap : ∀ c ∈ gap, isSpace c = true) (n : Nat) :
    Reads gap.isEmpty (gap ++ Text.ofNat n) [Token.ofNumber gap n] false := by
  intro s found hs
  have hdigits : ∀ c ∈ Text.ofNat n, c.isDigit = true := fun c => isDigit_of_mem_ofNat
  have hheld := holds_number found gap n
  cases hn : Text.ofNat n with
  | nil => exact absurd hn Nat.toDigits_ne_nil
  | cons c t =>
    rw [hn] at hdigits hheld
    have hfirst : gap.isEmpty = true ∨ gap ≠ [] ∨ c ∈ delimiters := by
      cases gap <;> simp
    have hrun := hs.run_gap_cons hgap hfirst t
    have hstep : step { gap := gap.reverse, tokens := found } c =
        { mode := .number [c], gap := gap.reverse, tokens := found } :=
      advanceBetween_of_isDigit (hdigits c List.mem_cons_self) _
    rw [hrun, run, List.foldl_cons, hstep, ← run,
      run_digits fun d hd => hdigits d (List.mem_cons_of_mem c hd), ← List.reverse_cons]
    exact hheld

/-- A separator may stand anywhere, and anything may follow it. -/
theorem mark (hgap : ∀ c ∈ gap, isSpace c = true) {c : Char} (hc : c ∈ separators) :
    Reads false (gap ++ [c]) [Token.ofMark gap c] true := by
  intro s found hs
  obtain ⟨hspace, hbackslash, hstart, hdigit, hdouble, hquote, hslash, hhash, hmark⟩ :=
    separators_advance c hc
  have hrun := hs.run_gap_cons hgap (Or.inr (Or.inr (List.mem_append_right spaces hc))) []
  have hstep : step { gap := gap.reverse, tokens := found } c =
      settled (Token.ofMark gap c :: found) := by
    simp only [step, advanceBetween, hspace, beq_eq_false_iff_ne.mpr hbackslash, hstart, hdigit,
      beq_eq_false_iff_ne.mpr hdouble, beq_eq_false_iff_ne.mpr hquote,
      beq_eq_false_iff_ne.mpr hslash, beq_eq_false_iff_ne.mpr hhash, hmark, Bool.or_self,
      Bool.false_eq_true, if_false, if_true, emit, List.reverse_reverse]
    rfl
  rw [hrun, run, List.foldl_cons, hstep]
  exact holds_settled

/-- A word behind a space. -/
theorem spaced {w : Text} (hw : isName w = true) :
    Reads false (' ' :: w) [Token.ofWord [' '] w] false :=
  word isSpace_of_mem_space hw

/-- A separator behind a space. -/
theorem spacedMark {c : Char} (hc : c ∈ separators) :
    Reads false [' ', c] [Token.ofMark [' '] c] true :=
  mark isSpace_of_mem_space hc

/-- A separator behind anything. -/
theorem adjoiningMark {c : Char} (hc : c ∈ separators) :
    Reads false [c] [Token.ofMark [] c] true :=
  mark isSpace_of_mem_nil hc

/-- What a whole text is read as, with blanks behind it. -/
theorem tokens_append (h : Reads true t ts closed) (hgap : ∀ c ∈ gap, isSpace c = true)
    (hbegins : ∀ c ∈ (t ++ gap).head?, c ≠ byteOrderMark) : tokens (t ++ gap) = ts := by
  have hrun : tokens (t ++ gap) = (run {} (t ++ gap)).finish.tokens.reverse := by
    cases hsource : t ++ gap with
    | nil => rfl
    | cons c rest =>
      rw [hsource] at hbegins
      simp only [tokens, scan, if_neg (hbegins c rfl)]
  have hheld := h {} [] holds_settled
  rw [hrun, run_append, hheld.finish_run_gap hgap, List.append_nil, List.reverse_reverse]

end Reads

end Bindery.Header
