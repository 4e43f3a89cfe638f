import Bindery.Header.Scanner
import Mathlib.Tactic.SplitIfs

/-!
# Scanning behind other text

A scanner does not look back: behind other tokens, and with more of a gap before its first token, it
takes every character as it does at the beginning of a text. And it loses nothing: what it has read
is the text of its tokens, the gaps before them and what it is still inside of.
-/

namespace Bindery

namespace Text

@[simp] theorem byteSize_reverse (t : Text) : byteSize t.reverse = byteSize t := by
  induction t with
  | nil => rfl
  | cons c t ih => simp [ih, Nat.add_comm]

end Text

namespace Header

/-- Some tokens, the last one first, with more of a gap before the first one. -/
def Token.behindGap (gap : Text) : List Token → List Token
  | [] => []
  | [t] => [{ t with gap := gap ++ t.gap }]
  | t :: u :: ts => t :: behindGap gap (u :: ts)

namespace Scanner

variable {gap : Text} {before : List Token} {s : Scanner}

/-- The state of a scanner behind other tokens and a gap that follows them. -/
def behind (gap : Text) (before : List Token) (s : Scanner) : Scanner :=
  match s.tokens with
  | [] => { s with gap := s.gap ++ gap.reverse, tokens := before }
  | _ :: _ => { s with tokens := Token.behindGap gap s.tokens ++ before }

/-! ### No look back -/

@[simp] theorem mode_behind : (s.behind gap before).mode = s.mode := by
  unfold behind
  split <;> rfl

@[simp] theorem depth_behind : (s.behind gap before).depth = s.depth := by
  unfold behind
  split <;> rfl

theorem become_behind (mode : ScanMode) :
    (s.behind gap before).become mode = (s.become mode).behind gap before := by
  obtain ⟨_, _, _, tokens⟩ := s
  cases tokens <;> rfl

/-- More of a gap may follow. -/
theorem extend_behind (s : Scanner) (gap : Text) (before : List Token) (mode : ScanMode) (t : Text) :
    { s.behind gap before with mode := mode, gap := t ++ (s.behind gap before).gap } =
      behind gap before { s with mode := mode, gap := t ++ s.gap } := by
  obtain ⟨_, _, _, tokens⟩ := s
  cases tokens with
  | nil => simp [behind]
  | cons t ts => rfl

theorem skip_behind (mode : ScanMode) (c : Char) :
    (s.behind gap before).skip mode c = (s.skip mode c).behind gap before :=
  extend_behind s gap before mode [c]

theorem emit_behind (kind : TokenKind) (read : Text) :
    (s.behind gap before).emit kind read = (s.emit kind read).behind gap before := by
  obtain ⟨_, _, _, tokens⟩ := s
  cases tokens with
  | nil => simp [behind, emit, Token.behindGap]
  | cons t ts => rfl

theorem emitWord_behind (word : Text) :
    (s.behind gap before).emitWord word = (s.emitWord word).behind gap before := by
  unfold emitWord
  split
  · rfl
  · exact emit_behind .word word

theorem emitNumber_behind (read : Text) :
    (s.behind gap before).emitNumber read = (s.emitNumber read).behind gap before := by
  cases read with
  | nil => exact become_behind .between
  | cons c t =>
    simp only [emitNumber]
    split
    · rw [emit_behind, emit_behind]
    · rw [emit_behind]

theorem endsWithName_behind (read : Text) :
    (s.behind gap before).endsWithName read = s.endsWithName read := by
  rw [endsWithName, depth_behind, endsWithName]

theorem emitDirective_behind (read : Text) (ended : Bool) :
    (s.behind gap before).emitDirective read ended =
      (s.emitDirective read ended).behind gap before := by
  simp only [emitDirective, emit_behind, depth_behind]
  rfl

theorem emitQuoted_behind (quote : Char) (read suffix : Text) :
    (s.behind gap before).emitQuoted quote read suffix =
      (s.emitQuoted quote read suffix).behind gap before :=
  emit_behind _ _

theorem advanceBetween_behind (c : Char) :
    (s.behind gap before).advanceBetween c = (s.advanceBetween c).behind gap before := by
  unfold advanceBetween
  simp only [skip_behind, become_behind, emit_behind, ← apply_ite (behind gap before)]

theorem advanceBackslash_behind (word : Text) (c : Char) :
    (s.behind gap before).advanceBackslash word c =
      (s.advanceBackslash word c).behind gap before := by
  have hfeed := extend_behind (s.emitWord word) gap before .between
    ['\n', '\\']
  simp only [List.cons_append, List.nil_append] at hfeed
  unfold advanceBackslash
  simp only [become_behind, emitWord_behind, emit_behind, advanceBetween_behind, hfeed,
    ← apply_ite (behind gap before)]

theorem advanceBody_behind (read : Text) (c : Char) :
    (s.behind gap before).advanceBody read c = (s.advanceBody read c).behind gap before := by
  unfold advanceBody
  simp only [become_behind, emitDirective_behind, skip_behind, ← apply_ite (behind gap before)]

theorem advanceDirective_behind (phase : DirectivePhase) (read : Text) (c : Char) :
    (s.behind gap before).advanceDirective phase read c =
      (s.advanceDirective phase read c).behind gap before := by
  unfold advanceDirective
  cases phase <;>
    simp only [become_behind, endsWithName_behind, emitDirective_behind, advanceBetween_behind,
      advanceBody_behind, ← apply_ite (behind gap before)]

theorem advanceSuffix_behind (quote : Char) (read suffix : Text) (c : Char) :
    (s.behind gap before).advanceSuffix quote read suffix c =
      (s.advanceSuffix quote read suffix c).behind gap before := by
  unfold advanceSuffix
  generalize (if suffix.isEmpty then none else openQuoted? suffix c) = quoted
  cases quoted <;>
    simp only [become_behind, emitQuoted_behind, advanceBetween_behind,
      ← apply_ite (behind gap before)]

/-- A scanner behind other tokens takes a character as it does at the beginning of a text. -/
theorem step_behind (c : Char) :
    (s.behind gap before).step c = (s.step c).behind gap before := by
  unfold step
  rw [mode_behind]
  cases s.mode with
  | between => exact advanceBetween_behind c
  | word read =>
    cases hquoted : openQuoted? read c <;>
      simp only [hquoted, become_behind, emit_behind, advanceBetween_behind,
        ← apply_ite (behind gap before)]
  | backslash word => exact advanceBackslash_behind word c
  | carriageReturn word =>
    have hfeed := extend_behind (s.emitWord word) gap before .between
      ['\n', '\r', '\\']
    simp only [List.cons_append, List.nil_append] at hfeed
    simp only [emitWord_behind, emit_behind, skip_behind, advanceBetween_behind, hfeed,
      ← apply_ite (behind gap before)]
  | code word escape wanted =>
    simp only [become_behind, emitWord_behind, emit_behind, advanceBetween_behind,
      ← apply_ite (behind gap before)]
  | number read =>
    simp only [become_behind, emitNumber_behind, advanceBetween_behind,
      ← apply_ite (behind gap before)]
  | stray read =>
    simp only [become_behind, emit_behind, advanceBetween_behind, ← apply_ite (behind gap before)]
  | quoted quote escaped read =>
    simp only [become_behind, ← apply_ite (behind gap before)]
  | broken quote read blanks =>
    -- What breaks off is a token, so the blanks are no part of the first gap.
    have hblanks : { (s.emit .stray read).behind gap before with gap := blanks } =
        behind gap before { s.emit .stray read with gap := blanks } := rfl
    simp only [become_behind, emit_behind, hblanks, advanceBetween_behind,
      ← apply_ite (behind gap before)]
  | suffix quote read suffix => exact advanceSuffix_behind quote read suffix c
  | delimiter read delimiter =>
    simp only [become_behind, emit_behind, advanceBetween_behind, ← apply_ite (behind gap before)]
  | raw delimiter read => simp only [become_behind, ← apply_ite (behind gap before)]
  | slash =>
    have hslash := extend_behind s gap before (.lineComment false)
      [c, '/']
    simp only [List.cons_append, List.nil_append] at hslash
    simp only [become_behind, emit_behind, advanceBetween_behind, hslash,
      ← apply_ite (behind gap before)]
  | lineComment escaped => simp only [skip_behind, ← apply_ite (behind gap before)]
  | blockComment star read =>
    simp only [become_behind, extend_behind, ← apply_ite (behind gap before)]
  | directive phase read => exact advanceDirective_behind phase read c

/-- So it takes a whole text. -/
theorem run_behind (t : Text) :
    (s.behind gap before).run t = (s.run t).behind gap before := by
  induction t generalizing s with
  | nil => rfl
  | cons c t ih => rw [run, List.foldl_cons, step_behind, ← run, ih]; rfl

/-- And so it ends. -/
theorem finish_behind : (s.behind gap before).finish = s.finish.behind gap before := by
  unfold finish
  rw [mode_behind]
  cases s.mode <;>
    simp only [emit_behind, emitWord_behind, emitNumber_behind, emitQuoted_behind,
      endsWithName_behind, emitDirective_behind]

end Scanner

/-- What a scanner is inside of, the last character first. -/
def ScanMode.pending : ScanMode → Text
  | .between => []
  | .word read => read
  | .backslash before => '\\' :: before
  | .carriageReturn before => '\r' :: '\\' :: before
  | .code before escape _ => escape ++ before
  | .number read => read
  | .stray read => read
  | .quoted _ _ read => read
  | .broken _ read blanks => blanks ++ read
  | .suffix _ read behind => behind ++ read
  | .delimiter read _ => read
  | .raw _ read => read
  | .slash => ['/']
  | .lineComment _ => []
  | .blockComment _ read => read
  | .directive _ read => read

namespace Scanner

variable {s : Scanner}

/-! ### No loss -/

/-- The number of bytes that the tokens and the gaps take up. -/
def placed (s : Scanner) : Nat := Token.widthOf s.tokens + Text.byteSize s.gap

/-- The number of bytes read. -/
def size (s : Scanner) : Nat := s.placed + Text.byteSize s.mode.pending

theorem size_become (mode : ScanMode) :
    (s.become mode).size = s.placed + Text.byteSize mode.pending := rfl

theorem size_skip (mode : ScanMode) (c : Char) :
    (s.skip mode c).size = s.placed + c.utf8Size + Text.byteSize mode.pending := by
  simp only [size, placed, skip, Text.byteSize_cons]
  omega

theorem placed_skip (mode : ScanMode) (c : Char) :
    (s.skip mode c).placed = s.placed + c.utf8Size := by
  simp only [placed, skip, Text.byteSize_cons]
  omega

theorem placed_emit (kind : TokenKind) (read : Text) :
    (s.emit kind read).placed = s.placed + Text.byteSize read := by
  simp only [placed, emit, Token.widthOf, Token.width, Text.byteSize_reverse, Text.byteSize_nil]
  omega

theorem size_emit (kind : TokenKind) (read : Text) :
    (s.emit kind read).size = s.placed + Text.byteSize read :=
  placed_emit _ _

theorem placed_emitWord (word : Text) :
    (s.emitWord word).placed = s.placed + Text.byteSize word := by
  unfold emitWord
  split
  · next h => rw [List.isEmpty_iff.mp h, Text.byteSize_nil, Nat.add_zero]
  · exact placed_emit .word word

theorem placed_emitNumber (read : Text) :
    (s.emitNumber read).placed = s.placed + Text.byteSize read := by
  cases read with
  | nil => rfl
  | cons c t =>
    simp only [emitNumber]
    split
    · simp only [placed_emit, Text.byteSize_cons, Text.byteSize_nil]
      omega
    · rw [placed_emit]

theorem placed_emitDirective (read : Text) (ended : Bool) :
    (s.emitDirective read ended).placed = s.placed + Text.byteSize read :=
  placed_emit _ _

theorem placed_emitQuoted (quote : Char) (read suffix : Text) :
    (s.emitQuoted quote read suffix).placed =
      s.placed + Text.byteSize suffix + Text.byteSize read := by
  rw [emitQuoted, placed_emit, Text.byteSize_append, Nat.add_assoc]

theorem pending_of_openQuoted? {word : Text} {c : Char} {mode : ScanMode}
    (h : openQuoted? word c = some mode) : mode.pending = c :: word := by
  unfold openQuoted? at h
  split at h
  · cases h
    rfl
  · split at h
    · cases h
      rfl
    · cases h

theorem size_advanceBetween (c : Char) :
    (s.advanceBetween c).size = s.placed + c.utf8Size := by
  have hslash : c == '/' → c.utf8Size = ('/').utf8Size := fun h => by rw [eq_of_beq h]
  have hbackslash : c == '\\' → c.utf8Size = ('\\').utf8Size := fun h => by rw [eq_of_beq h]
  unfold advanceBetween
  split_ifs <;>
    simp_all only [size_skip, size_become, size_emit, ScanMode.pending, Text.byteSize_cons,
      Text.byteSize_nil, Nat.add_zero, forall_const]

theorem size_advanceBackslash (word : Text) (c : Char) :
    (s.advanceBackslash word c).size =
      s.placed + Text.byteSize ('\\' :: word) + c.utf8Size := by
  unfold advanceBackslash
  split_ifs with hsmall hcapital hfeed hreturn
  · rw [eq_of_beq hsmall, size_become]
    simp only [ScanMode.pending, List.cons_append, List.nil_append, Text.byteSize_cons]
    omega
  · rw [eq_of_beq hcapital, size_become]
    simp only [ScanMode.pending, List.cons_append, List.nil_append, Text.byteSize_cons]
    omega
  · rw [eq_of_beq hfeed]
    have hword := placed_emitWord (s := s) word
    simp only [placed] at hword
    simp only [size, placed, ScanMode.pending, Text.byteSize_cons, Text.byteSize_nil]
    omega
  · rw [eq_of_beq hreturn, size_become]
    simp only [ScanMode.pending, Text.byteSize_cons]
    omega
  · rw [size_advanceBetween, placed_emit, placed_emitWord]
    simp only [Text.byteSize_cons, Text.byteSize_nil]
    omega

theorem size_advanceBody (read : Text) (c : Char) :
    (s.advanceBody read c).size = s.placed + Text.byteSize read + c.utf8Size := by
  unfold advanceBody
  split_ifs <;>
    simp only [size_skip, size_become, placed_emitDirective, ScanMode.pending, Text.byteSize_cons,
      Text.byteSize_nil] <;>
    omega

theorem size_advanceDirective (phase : DirectivePhase) (read : Text) (c : Char) :
    (s.advanceDirective phase read c).size = s.placed + Text.byteSize read + c.utf8Size := by
  unfold advanceDirective
  cases phase with
  | body => exact size_advanceBody read c
  | _ =>
    dsimp only
    split_ifs <;>
      simp only [size_become, size_advanceBetween, size_advanceBody, placed_emitDirective,
        ScanMode.pending, Text.byteSize_cons] <;>
      omega

theorem size_advanceSuffix (quote : Char) (read suffix : Text) (c : Char) :
    (s.advanceSuffix quote read suffix c).size =
      s.placed + Text.byteSize (suffix ++ read) + c.utf8Size := by
  have hquoted : ∀ mode, (if suffix.isEmpty then none else openQuoted? suffix c) = some mode →
      mode.pending = c :: suffix := by
    intro mode hmode
    split at hmode
    · cases hmode
    · exact pending_of_openQuoted? hmode
  unfold advanceSuffix
  generalize (if suffix.isEmpty then none else openQuoted? suffix c) = quoted at hquoted
  generalize (if suffix.isEmpty then c.isAlpha || c == '_' else Text.isWord c) = goesOn
  rw [Text.byteSize_append]
  cases goesOn with
  | true =>
    rw [if_pos rfl, size_become, ScanMode.pending, List.cons_append, Text.byteSize_cons,
      Text.byteSize_append]
    omega
  | false =>
    rw [if_neg Bool.false_ne_true]
    cases quoted with
    | none =>
      dsimp only
      rw [size_advanceBetween, placed_emitQuoted]
      omega
    | some mode =>
      dsimp only
      rw [size_become, placed_emitQuoted, hquoted mode rfl, Text.byteSize_cons, Text.byteSize_nil]
      omega

/-- A character adds its bytes. -/
theorem size_step (c : Char) : (s.step c).size = s.size + c.utf8Size := by
  have hsize : s.size = s.placed + Text.byteSize s.mode.pending := rfl
  rw [hsize]
  unfold step
  cases s.mode with
  | between => exact size_advanceBetween c
  | word read =>
    dsimp only
    cases hquoted : openQuoted? read c with
    | none =>
      dsimp only
      split_ifs with hpart hbackslash
      · simp only [size_become, ScanMode.pending, Text.byteSize_cons]
        omega
      · rw [eq_of_beq hbackslash, size_become]
        simp only [ScanMode.pending, Text.byteSize_cons]
        omega
      · rw [size_advanceBetween, placed_emit, ScanMode.pending]
    | some mode =>
      dsimp only
      split_ifs with hpart hbackslash
      · simp only [size_become, ScanMode.pending, Text.byteSize_cons]
        omega
      · rw [eq_of_beq hbackslash, size_become]
        simp only [ScanMode.pending, Text.byteSize_cons]
        omega
      · rw [size_become, pending_of_openQuoted? hquoted, Text.byteSize_cons, ScanMode.pending]
        omega
  | backslash word => exact size_advanceBackslash word c
  | carriageReturn word =>
    dsimp only
    split_ifs with hfeed
    · have hword := placed_emitWord (s := s) word
      rw [eq_of_beq hfeed]
      simp only [placed] at hword
      simp only [size, placed, ScanMode.pending, Text.byteSize_cons, Text.byteSize_nil]
      omega
    · simp only [size_advanceBetween, placed_skip, placed_emit, placed_emitWord,
        ScanMode.pending, Text.byteSize_cons, Text.byteSize_nil]
      omega
  | blockComment star read =>
    dsimp only
    split_ifs <;>
      simp only [size, placed, become, ScanMode.pending, Text.byteSize_cons, Text.byteSize_nil,
        Text.byteSize_append] <;>
      omega
  | slash =>
    dsimp only
    split_ifs with hslash hstar
    · rw [eq_of_beq hslash]
      simp only [size, placed, ScanMode.pending, Text.byteSize_cons, Text.byteSize_nil]
      omega
    · rw [eq_of_beq hstar, size_become]
      simp only [ScanMode.pending, Text.byteSize_cons, Text.byteSize_nil]
      omega
    · rw [size_advanceBetween, placed_emit, ScanMode.pending]
  | suffix quote read suffix => exact size_advanceSuffix quote read suffix c
  | directive phase read => exact size_advanceDirective phase read c
  | broken quote read blanks =>
    have hblanks : Scanner.placed { s.emit .stray read with gap := blanks } =
        s.placed + Text.byteSize (blanks ++ read) := by
      have hstray := placed_emit (s := s) .stray read
      simp only [placed, emit, Text.byteSize_nil] at hstray
      simp only [placed, emit, Text.byteSize_append]
      omega
    dsimp only
    split_ifs
    · simp only [size_become, ScanMode.pending, Text.byteSize_cons, List.cons_append]
      omega
    · simp only [size_become, ScanMode.pending, Text.byteSize_cons, List.cons_append,
        List.nil_append]
      omega
    · simp only [size_become, ScanMode.pending, Text.byteSize_cons, List.cons_append]
      omega
    · rw [size_advanceBetween]
      exact congrArg (· + c.utf8Size) hblanks
  | _ =>
    dsimp only
    split_ifs <;>
      simp only [size_become, size_skip, size_advanceBetween, placed_emit, placed_emitWord,
        placed_emitNumber, ScanMode.pending, Text.byteSize_cons, Text.byteSize_nil,
        Text.byteSize_append, List.cons_append] <;>
      omega

/-- What is read adds up. -/
theorem size_run (t : Text) : (s.run t).size = s.size + Text.byteSize t := by
  induction t generalizing s with
  | nil => rfl
  | cons c t ih =>
    have hstep : (s.run (c :: t)).size = ((s.step c).run t).size := rfl
    rw [hstep, ih, size_step, Text.byteSize_cons, Nat.add_assoc]

end Scanner

/-- A scanned text is all in the tokens, in the gaps and in what the scanner is inside of. -/
theorem size_scan (t : Text) : (scan t).size = Text.byteSize t := by
  cases t with
  | nil => rfl
  | cons c t =>
    rw [scan]
    split
    · rw [Scanner.size_run]
      simp [Scanner.size, Scanner.placed, Token.widthOf, ScanMode.pending]
    · rw [Scanner.size_run]
      simp [Scanner.size, Scanner.placed, Token.widthOf, ScanMode.pending]

end Header

end Bindery
