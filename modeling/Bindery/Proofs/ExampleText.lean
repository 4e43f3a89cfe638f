import Bindery.Documentation.Markup
import Bindery.Proofs.Blank
import Bindery.Proofs.Rewriting

/-!
# Examples in documentation

An example stands between an opening and a closing mark. It is left out, together with a heading in
front of it, if a line ends at its closing mark. Otherwise it is not closed there, and what follows
belongs to it up to a closing mark of a later example at which a line ends. Where there is none,
nothing is left out.
-/

namespace Bindery.Markup

/-! ## Documentation with examples -/

/-- The mark that opens an example. -/
def openMark : Text := "\\code"

/-- The mark that closes an example. -/
def closeMark : Text := "\\endcode"

/-- The heading that an example may have. -/
def exampleHeading : Text := "Example:"

/-- There is a mark in a text. -/
def HasMark (t : Text) : Prop := openMark <:+: t ∨ closeMark <:+: t

instance (t : Text) : Decidable (HasMark t) := inferInstanceAs (Decidable (_ ∨ _))

/-- An example, and the text behind it. -/
structure ExampleBlock where
  /-- What stands between the marks. -/
  inside : Text
  /-- What stands behind the closing mark, up to the next example. -/
  behind : Text
  deriving DecidableEq, Repr

/-- An example between its marks, and the text behind it. -/
def ExampleBlock.text (b : ExampleBlock) : Text := openMark ++ b.inside ++ closeMark ++ b.behind

/-- There is something in an example, and no other mark in it or behind it. -/
structure ExampleBlock.IsPlain (b : ExampleBlock) : Prop where
  inside_ne : b.inside ≠ []
  inside : ¬ HasMark b.inside
  behind : ¬ HasMark b.behind

instance (b : ExampleBlock) : Decidable b.IsPlain :=
  decidable_of_iff (b.inside ≠ [] ∧ ¬ HasMark b.inside ∧ ¬ HasMark b.behind)
    ⟨fun h => ⟨h.1, h.2.1, h.2.2⟩, fun h => ⟨h.inside_ne, h.inside, h.behind⟩⟩

/-- A block of documentation with examples. -/
structure ExampleText where
  /-- What stands before the first example. -/
  lead : Text
  /-- The examples with what stands behind them. -/
  blocks : List ExampleBlock
  deriving DecidableEq, Repr

/-- Whether a text consists of the heading of an example and some blanks. -/
def isHeading (t : Text) : Bool :=
  match Text.after? exampleHeading t with
  | some blanks => !blanks.isEmpty && blanks.all Text.isBlank
  | none => false

/-- A text without the heading of an example at its end. -/
def withoutHeading : Text → Text
  | [] => []
  | c :: t => if isHeading (c :: t) then [] else c :: withoutHeading t

/-- What is kept of a text, of some examples behind it that no line end has closed yet, and of the
examples behind these. -/
def keptFrom (lead waiting : Text) : List ExampleBlock → Text
  | [] => lead ++ waiting
  | b :: blocks =>
    match b.behind with
    | '\n' :: rest => withoutHeading lead ++ keptFrom rest [] blocks
    | _ => keptFrom lead (waiting ++ b.text) blocks

namespace ExampleText

/-- The block of documentation itself. -/
def text (d : ExampleText) : Text := d.lead ++ d.blocks.flatMap ExampleBlock.text

/-- There are no marks but those of the examples. -/
structure IsPlain (d : ExampleText) : Prop where
  lead : ¬ HasMark d.lead
  blocks : ∀ b ∈ d.blocks, b.IsPlain

instance (d : ExampleText) : Decidable d.IsPlain :=
  decidable_of_iff (¬ HasMark d.lead ∧ ∀ b ∈ d.blocks, b.IsPlain)
    ⟨fun h => ⟨h.1, h.2⟩, fun h => ⟨h.lead, h.blocks⟩⟩

/-- What is kept of the block. -/
def kept (d : ExampleText) : Text := keptFrom d.lead [] d.blocks

/-- A line ends at the closing mark of the last example, if there are examples. -/
def EndsClosed (d : ExampleText) : Prop :=
  ∀ b ∈ d.blocks.getLast?, b.behind.head? = some '\n'

instance (d : ExampleText) : Decidable d.EndsClosed :=
  inferInstanceAs (Decidable (∀ b ∈ d.blocks.getLast?, b.behind.head? = some '\n'))

/-- Blocks without the blanks at the end of the last one. -/
def trimLast : List ExampleBlock → List ExampleBlock
  | [] => []
  | [b] => [{ b with behind := Text.trimEnd b.behind }]
  | b :: c :: blocks => b :: trimLast (c :: blocks)

/-- The block of documentation without the blanks around it. -/
def trimmed (d : ExampleText) : ExampleText :=
  if d.blocks = [] then { lead := Text.trim d.lead, blocks := [] }
  else { lead := Text.trimStart d.lead, blocks := trimLast d.blocks }

end ExampleText

/-! ## Recognising an example -/

section Examples

variable {c : Char} {t u s lead waiting tail : Text} {last : Option Char} {b : ExampleBlock}
  {blocks : List ExampleBlock}

/-- The closing mark at the end of a line. -/
def lineMark : Text := "\\endcode\n"

private theorem marks_eq : openMark = '\\' :: ['c', 'o', 'd', 'e'] ∧
    closeMark = '\\' :: ['e', 'n', 'd', 'c', 'o', 'd', 'e'] ∧
      lineMark = '\\' :: ['e', 'n', 'd', 'c', 'o', 'd', 'e', '\n'] := by
  with_unfolding_all decide

theorem HasMark.mono (h : HasMark s) (hs : s <:+: t) : HasMark t :=
  h.imp (·.trans hs) (·.trans hs)

theorem isHeading_iff : isHeading t = true ↔
    ∃ blanks, blanks ≠ [] ∧ Text.IsBlank blanks ∧ t = exampleHeading ++ blanks := by
  unfold isHeading
  constructor
  · intro h
    split at h
    · next blanks hblanks =>
      rw [Bool.and_eq_true, Bool.not_eq_true', List.isEmpty_eq_false_iff, List.all_eq_true] at h
      exact ⟨blanks, h.1, h.2, Text.after?_eq_some_iff.mp hblanks⟩
    · cases h
  · rintro ⟨blanks, hne, hblank, rfl⟩
    rw [Text.after?_append]
    dsimp only
    rw [Bool.and_eq_true, Bool.not_eq_true', List.isEmpty_eq_false_iff, List.all_eq_true]
    exact ⟨hne, hblank⟩

/-- What is behind the heading of an example is an end of the text. -/
theorem behindHeading_suffix (t : Text) : behindHeading t <:+ t := by
  unfold behindHeading
  split
  · next rest hrest =>
    rw [Text.after?_eq_some_iff.mp hrest]
    split
    · exact (List.dropWhile_suffix Text.isBlank).trans (List.suffix_append _ _)
    · exact List.suffix_rfl
  · exact List.suffix_rfl

theorem exampleRule_ignoresLast : exampleRule.IgnoresLast := fun _ _ _ => rfl

/-- What is recognised as an example is opened, and a line ends where it is closed. -/
theorem exists_of_exampleRule_ne_none (h : exampleRule last c t ≠ none) :
    ∃ d inside, behindHeading (c :: t) = openMark ++ d :: inside ∧ lineMark <:+: inside := by
  unfold exampleRule at h
  split at h
  · next d inside hafter =>
    refine ⟨d, inside, Text.after?_eq_some_iff.mp hafter, Text.occurs_iff.mp ?_⟩
    exact Option.isSome_iff_ne_none.mpr fun hnone => h (by
      have hcut : Text.cutAt? (Text.ofString "\\endcode\n") inside = none := hnone
      rw [hcut]
      rfl)
  · exact absurd rfl h

/-- Where nothing is opened, or nothing closed at the end of a line, there is no example. -/
theorem exampleRule_eq_none (h : ¬ openMark <:+: c :: t ∨ ¬ lineMark <:+: c :: t)
    (last : Option Char) : exampleRule last c t = none := by
  by_contra hsome
  obtain ⟨d, inside, hbehind, hclosed⟩ := exists_of_exampleRule_ne_none hsome
  have hsuffix := behindHeading_suffix (c :: t)
  rw [hbehind] at hsuffix
  rcases h with h | h
  · exact h ((List.prefix_append _ _).isInfix.trans hsuffix.isInfix)
  · refine h (hclosed.trans (List.IsSuffix.isInfix ?_))
    exact ((List.suffix_cons d inside).trans (List.suffix_append _ _)).trans hsuffix

/-- Nothing is left out of a text without examples. -/
theorem dropExamples_eq_self (h : ¬ openMark <:+: t ∨ ¬ lineMark <:+: t) :
    dropExamples t = t := by
  have hkept := exampleRule_ignoresLast.rewrite_append_of_forall (s := t) (t := []) fun c u hu =>
    exampleRule_eq_none (h.imp (fun hopen hword => hopen (by
      rw [List.append_nil] at hword
      exact hword.trans hu.isInfix)) fun hline hword => hline (by
      rw [List.append_nil] at hword
      exact hword.trans hu.isInfix)) none
  rw [List.append_nil] at hkept
  exact hkept.trans (List.append_nil t)

/-- An example goes from its opening mark or its heading to the first closing mark at the end of a
line that is behind another character. -/
theorem exampleRule_eq_some {x : Char} (hs : ¬ lineMark <:+: s)
    (h : behindHeading (c :: (u ++ tail)) = openMark ++ x :: (s ++ (lineMark ++ tail))) :
    exampleRule last c (u ++ tail) = some ⟨[], u.length⟩ := by
  have hcut : Text.cutAt? (Text.ofString "\\endcode\n") (s ++ (lineMark ++ tail)) =
      some (s, tail) := by
    have hline := marks_eq.2.2
    rw [hline] at hs ⊢
    exact (congrArg (Text.cutAt? · _) hline).trans (Text.cutAt?_append (by decide) hs tail)
  have hafter : Text.after? (Text.ofString "\\code") (behindHeading (c :: (u ++ tail))) =
      some (x :: (s ++ (lineMark ++ tail))) := by
    rw [h]
    exact Text.after?_append openMark _
  rw [exampleRule, hafter]
  dsimp only
  rw [hcut, Option.map_some, List.length_append, Nat.add_sub_cancel]

/-- Between a text without an opening mark and that mark no example begins, but where that text is
its heading. -/
theorem behindHeading_append (hlead : ¬ openMark <:+: c :: lead) {x : Char} {inside : Text}
    (h : behindHeading (c :: (lead ++ (openMark ++ t))) = openMark ++ x :: inside) :
    isHeading (c :: lead) = true := by
  obtain ⟨hopen, _, _⟩ := marks_eq
  have hfirst : ∀ {left right : Text}, ¬ openMark <:+: left →
      (c :: lead) ++ (openMark ++ t) = left ++ (openMark ++ right) → c :: lead = left := by
    intro left right hleft heq
    rw [hopen] at hlead hleft heq
    exact Text.eq_of_append_eq_append (by decide) hlead hleft heq
  have hstart : c :: (lead ++ (openMark ++ t)) ≠ openMark ++ x :: inside := by
    intro heq
    have hnil : ¬ openMark <:+: [] := by
      rw [hopen]
      decide
    exact List.cons_ne_nil c lead (hfirst hnil heq)
  unfold behindHeading at h
  split at h
  · next rest hrest =>
    split at h
    · next hblank =>
      obtain ⟨blanks, hblanks, hsplit⟩ := Text.exists_blank_append_trimStart rest
      rw [h] at hsplit
      have hheading : ¬ openMark <:+: exampleHeading ++ blanks := by
        intro hoccurs
        have hmem : '\\' ∈ exampleHeading ++ blanks := hoccurs.subset (by rw [hopen]; decide)
        rcases List.mem_append.mp hmem with hmem | hmem
        · exact absurd hmem (by with_unfolding_all decide)
        · exact absurd (hblanks _ hmem) (by with_unfolding_all decide)
      have heq : (c :: lead) ++ (openMark ++ t) =
          (exampleHeading ++ blanks) ++ (openMark ++ x :: inside) := by
        rw [List.append_assoc, ← hsplit]
        exact Text.after?_eq_some_iff.mp hrest
      refine isHeading_iff.mpr ⟨blanks, ?_, hblanks, hfirst hheading heq⟩
      rintro rfl
      rw [hsplit, hopen] at hblank
      have hmark : Text.isBlank '\\' = true := hblank
      exact absurd hmark (by with_unfolding_all decide)
    · exact absurd h hstart
  · exact absurd h hstart

/-- Behind the heading of an example its opening mark is found. -/
theorem behindHeading_heading (h : isHeading (c :: lead) = true) :
    behindHeading (c :: (lead ++ (openMark ++ t))) = openMark ++ t := by
  obtain ⟨blanks, hne, hblanks, heq⟩ := isHeading_iff.mp h
  have htext : c :: (lead ++ (openMark ++ t)) = exampleHeading ++ (blanks ++ (openMark ++ t)) := by
    rw [← List.append_assoc exampleHeading, ← heq, List.cons_append]
  have hafter : Text.after? (Text.ofString "Example:") (exampleHeading ++
      (blanks ++ (openMark ++ t))) = some (blanks ++ (openMark ++ t)) := Text.after?_append _ _
  have hblank : (blanks ++ (openMark ++ t)).head?.any Text.isBlank = true := by
    obtain ⟨d, rest, rfl⟩ := List.exists_cons_of_ne_nil hne
    exact hblanks d List.mem_cons_self
  have htrim : Text.trimStart (openMark ++ t) = openMark ++ t := by
    rw [marks_eq.1]
    exact Text.trimStart_of_head fun d hd => by
      rw [← Option.some.inj hd]
      with_unfolding_all decide
  rw [htext, behindHeading, hafter]
  dsimp only
  rw [if_pos hblank, Text.trimStart_append fun _ => htrim, Text.trimStart_eq_nil_iff.mpr hblanks,
    List.nil_append]

/-- An example is left out with its heading. -/
theorem rewrite_exampleRule_append (hlead : ¬ openMark <:+: lead) (hs : ¬ lineMark <:+: s)
    (x : Char) (tail : Text) :
    Text.rewrite exampleRule (lead ++ (openMark ++ x :: (s ++ (lineMark ++ tail)))) =
      withoutHeading lead ++ Text.rewrite exampleRule tail := by
  obtain ⟨hopen, _, _⟩ := marks_eq
  induction lead with
  | nil =>
    have hbehind : ∀ t, behindHeading ('\\' :: t) = '\\' :: t := by
      intro t
      have hnone : Text.after? (Text.ofString "Example:") ('\\' :: t) = none := by
        simp [Text.after?, Text.ofString_eq]
      rw [behindHeading, hnone]
    have hchange := @exampleRule_eq_some '\\' (['c', 'o', 'd', 'e'] ++ x :: (s ++ lineMark)) s tail
      none x hs (by simp [hbehind, hopen])
    have hrewrite := exampleRule_ignoresLast.rewrite_append hchange
    rw [hopen, withoutHeading, ← hrewrite]
    simp
  | cons c lead ih =>
    have hbehind : ¬ openMark <:+: lead := fun hoccurs =>
      hlead (hoccurs.trans (List.suffix_cons c lead).isInfix)
    rw [withoutHeading]
    cases hheading : isHeading (c :: lead) with
    | true =>
      have hopened := @behindHeading_heading c (x :: (s ++ (lineMark ++ tail))) lead hheading
      have hchange := @exampleRule_eq_some c (lead ++ (openMark ++ x :: (s ++ lineMark))) s tail
        none x hs (by simpa only [List.append_assoc, List.cons_append] using hopened)
      have hrewrite := exampleRule_ignoresLast.rewrite_append hchange
      rw [if_pos rfl, ← hrewrite]
      simp only [List.append_assoc, List.cons_append]
    | false =>
      have hnone : exampleRule none c
          (lead ++ (openMark ++ x :: (s ++ (lineMark ++ tail)))) = none := by
        by_contra hsome
        obtain ⟨d, inside, hopened, _⟩ := exists_of_exampleRule_ne_none hsome
        rw [behindHeading_append hlead hopened] at hheading
        cases hheading
      rw [if_neg Bool.false_ne_true, List.cons_append,
        exampleRule_ignoresLast.rewrite_cons hnone, ih hbehind, List.cons_append]

/-! ## Leaving out the examples -/

/-- Some examples wait for a line that ends at a closing mark, if there are any. -/
def IsWaiting (waiting : Text) : Prop :=
  waiting = [] ∨ ∃ x s, waiting = openMark ++ x :: s ∧ ¬ lineMark <:+: waiting

theorem closeMark_prefix_lineMark : closeMark <+: lineMark := by
  rw [marks_eq.2.1, marks_eq.2.2]
  exact ⟨['\n'], rfl⟩

/-- The next example is opened within what waits, or opens it. -/
theorem IsWaiting.exists_open (hwaiting : IsWaiting waiting) (hb : b.IsPlain) :
    ∃ x s, waiting ++ (openMark ++ b.inside) = openMark ++ x :: s ∧
      ¬ lineMark <:+: openMark ++ x :: s := by
  obtain ⟨hopen, hclose, hline⟩ := marks_eq
  have hinside : ¬ lineMark <:+: openMark ++ b.inside := by
    intro hoccurs
    rw [hopen, hline, List.cons_append, List.infix_cons_iff] at hoccurs
    rcases hoccurs with hstart | hoccurs
    · exact absurd (List.cons_prefix_cons.mp (List.cons_prefix_cons.mp hstart).2).1 (by decide)
    · have hclosed := (Text.infix_append_iff_of_not_mem (by decide)).mp hoccurs
      rw [← hline] at hclosed
      exact hb.inside (Or.inr (closeMark_prefix_lineMark.isInfix.trans hclosed))
  rcases hwaiting with rfl | ⟨x, s, hwaiting, hnot⟩
  · obtain ⟨x, s, hs⟩ := List.exists_cons_of_ne_nil hb.inside_ne
    rw [hs] at hinside
    exact ⟨x, s, by rw [List.nil_append, hs], hinside⟩
  · refine ⟨x, s ++ (openMark ++ b.inside), by rw [hwaiting]; simp, fun hoccurs => ?_⟩
    have hwhole : openMark ++ x :: (s ++ (openMark ++ b.inside)) =
        waiting ++ '\\' :: (['c', 'o', 'd', 'e'] ++ b.inside) := by
      rw [hwaiting, hopen]
      simp
    rw [hwhole, hline, Text.infix_append_cons_self_iff (by decide), ← hline] at hoccurs
    rcases hoccurs with hoccurs | hoccurs
    · exact hnot hoccurs
    · exact hinside (by rwa [hopen])

/-- An example waits with those before it if no line ends at its closing mark. -/
theorem IsWaiting.append_text (hwaiting : IsWaiting waiting) (hb : b.IsPlain)
    (hnone : ∀ rest, b.behind ≠ '\n' :: rest) : IsWaiting (waiting ++ b.text) := by
  obtain ⟨_, hclose, hline⟩ := marks_eq
  obtain ⟨x, s, hopened, hnot⟩ := hwaiting.exists_open hb
  have hwhole : waiting ++ b.text = (openMark ++ x :: s) ++ (closeMark ++ b.behind) := by
    rw [ExampleBlock.text, List.append_assoc _ closeMark, ← List.append_assoc waiting, hopened]
  refine Or.inr ⟨x, s ++ (closeMark ++ b.behind), by rw [hwhole]; simp, ?_⟩
  rw [hwhole, hclose, List.cons_append, hline, Text.infix_append_cons_self_iff (by decide), ← hline]
  rintro (hoccurs | hoccurs)
  · exact hnot hoccurs
  · rw [hline, List.infix_cons_iff] at hoccurs
    rcases hoccurs with hstart | hoccurs
    · have hend : ['\n'] <+: b.behind :=
        (List.prefix_append_right_inj ['\\', 'e', 'n', 'd', 'c', 'o', 'd', 'e']).mp hstart
      obtain ⟨rest, hrest⟩ := hend
      exact hnone rest hrest.symm
    · have hclosed := (Text.infix_append_iff_of_not_mem (by decide)).mp hoccurs
      rw [← hline] at hclosed
      exact hb.behind (Or.inr (closeMark_prefix_lineMark.isInfix.trans hclosed))

/-- No line ends at a closing mark where examples wait. -/
theorem not_infix_append (hlead : ¬ HasMark lead)
    (hwaiting : ∃ x s, waiting = openMark ++ x :: s ∧ ¬ lineMark <:+: waiting) :
    ¬ lineMark <:+: lead ++ waiting := by
  obtain ⟨hopen, _, hline⟩ := marks_eq
  obtain ⟨x, s, hwhole, hnot⟩ := hwaiting
  intro hoccurs
  rw [hwhole, hopen, List.cons_append, hline, Text.infix_append_cons_self_iff (by decide),
    ← hline] at hoccurs
  rcases hoccurs with hoccurs | hoccurs
  · exact hlead (Or.inr (closeMark_prefix_lineMark.isInfix.trans hoccurs))
  · rw [hwhole, hopen] at hnot
    exact hnot hoccurs

/-- What is kept of a text with examples. -/
theorem rewrite_eq_keptFrom (hlead : ¬ HasMark lead) (hblocks : ∀ b ∈ blocks, b.IsPlain)
    (hwaiting : IsWaiting waiting) :
    Text.rewrite exampleRule (lead ++ (waiting ++ blocks.flatMap ExampleBlock.text)) =
      keptFrom lead waiting blocks := by
  induction blocks generalizing lead waiting with
  | nil =>
    rw [List.flatMap_nil, List.append_nil, keptFrom]
    refine dropExamples_eq_self ?_
    rcases hwaiting with rfl | hopened
    · rw [List.append_nil]
      exact Or.inl fun hoccurs => hlead (Or.inl hoccurs)
    · exact Or.inr (not_infix_append hlead hopened)
  | cons b blocks ih =>
    have hb := hblocks b List.mem_cons_self
    have hbehind := fun other hother => hblocks other (List.mem_cons_of_mem b hother)
    rw [List.flatMap_cons, keptFrom]
    split
    · next rest hrest =>
      obtain ⟨x, s, hopened, hnot⟩ := hwaiting.exists_open hb
      have hs : ¬ lineMark <:+: s := fun hoccurs =>
        hnot (hoccurs.trans ((List.suffix_cons x s).trans (List.suffix_append _ _)).isInfix)
      have hwhole : waiting ++ (b.text ++ blocks.flatMap ExampleBlock.text) =
          openMark ++ x :: (s ++ (lineMark ++ (rest ++ blocks.flatMap ExampleBlock.text))) := by
        have hline : closeMark ++ '\n' :: rest = lineMark ++ rest := by
          rw [marks_eq.2.1, marks_eq.2.2]
          rfl
        rw [ExampleBlock.text, hrest, List.append_assoc _ closeMark, hline,
          ← List.append_assoc waiting, ← List.append_assoc waiting, hopened]
        simp only [List.append_assoc, List.cons_append]
      have hlead' : ¬ openMark <:+: lead := fun hoccurs => hlead (Or.inl hoccurs)
      have hplain : ¬ HasMark rest := by
        have hmarks := hb.behind
        rw [hrest] at hmarks
        exact fun hmark => hmarks (hmark.mono (List.suffix_cons _ _).isInfix)
      rw [hwhole, rewrite_exampleRule_append hlead' hs]
      exact congrArg (withoutHeading lead ++ ·) (ih hplain hbehind (Or.inl rfl))
    · next hnone =>
      have hstill := hwaiting.append_text hb fun rest hrest => hnone rest hrest
      rw [← ih hlead hbehind hstill, List.append_assoc waiting]

theorem ExampleText.IsPlain.dropExamples_eq {d : ExampleText} (h : d.IsPlain) :
    dropExamples d.text = d.kept :=
  rewrite_eq_keptFrom h.lead h.blocks (Or.inl rfl)

/-- An example that is not closed at the end is kept with its opening mark. -/
theorem openMark_infix_keptFrom (hwaiting : blocks = [] → openMark <:+: waiting)
    (hlast : ∀ b ∈ blocks.getLast?, b.behind.head? ≠ some '\n') :
    openMark <:+: keptFrom lead waiting blocks := by
  induction blocks generalizing lead waiting with
  | nil => exact (hwaiting rfl).trans (List.suffix_append lead waiting).isInfix
  | cons b blocks ih =>
    have hbehind : blocks ≠ [] → ∀ c ∈ blocks.getLast?, c.behind.head? ≠ some '\n' := by
      intro hne c hc
      refine hlast c ?_
      rwa [List.getLast?_cons_of_ne_nil hne]
    rw [keptFrom]
    split
    · next rest hrest =>
      have hne : blocks ≠ [] := by
        rintro rfl
        exact hlast b rfl (by rw [hrest]; rfl)
      exact (ih (fun hnil => absurd hnil hne) (hbehind hne)).trans
        (List.suffix_append _ _).isInfix
    · refine ih (fun _ => ?_) ?_
      · rw [ExampleBlock.text, List.append_assoc, List.append_assoc]
        exact (List.prefix_append _ _).isInfix.trans (List.suffix_append waiting _).isInfix
      · by_cases hne : blocks = []
        · rw [hne]
          nofun
        · exact hbehind hne

/-! ## Blanks around documentation -/

namespace ExampleText

theorem not_isBlank_flatMap_text (hne : blocks ≠ []) :
    ¬ Text.IsBlank (blocks.flatMap ExampleBlock.text) := by
  obtain ⟨b, blocks, rfl⟩ := List.exists_cons_of_ne_nil hne
  intro hblank
  have hmark : '\\' ∈ (b :: blocks).flatMap ExampleBlock.text := by
    rw [List.flatMap_cons, ExampleBlock.text, marks_eq.1]
    exact List.mem_append_left _ (by simp)
  exact absurd (hblank _ hmark) (by with_unfolding_all decide)

/-- The blanks at the end are those behind the last example. -/
theorem trimEnd_flatMap_text (blocks : List ExampleBlock) :
    Text.trimEnd (blocks.flatMap ExampleBlock.text) =
      (trimLast blocks).flatMap ExampleBlock.text := by
  induction blocks with
  | nil => rfl
  | cons b blocks ih =>
    cases blocks with
    | nil =>
      have hmark : Text.trimEnd (openMark ++ b.inside ++ closeMark) =
          openMark ++ b.inside ++ closeMark := by
        refine Text.trimEnd_of_getLast fun c hc => ?_
        rw [marks_eq.2.1, List.getLast?_append] at hc
        rw [← Option.some.inj hc]
        with_unfolding_all decide
      rw [trimLast, List.flatMap_cons, List.flatMap_nil, List.append_nil, List.flatMap_cons,
        List.flatMap_nil, List.append_nil, ExampleBlock.text, Text.trimEnd_append fun _ => hmark,
        ExampleBlock.text]
    | cons c blocks =>
      have hwhole : (b :: trimLast (c :: blocks)).flatMap ExampleBlock.text =
          b.text ++ Text.trimEnd ((c :: blocks).flatMap ExampleBlock.text) := by
        rw [List.flatMap_cons, ih]
      rw [trimLast, hwhole, List.flatMap_cons]
      exact Text.trimEnd_append fun hblank =>
        absurd hblank (not_isBlank_flatMap_text (List.cons_ne_nil c blocks))

/-- Trimming the block is trimming its first and its last part. -/
theorem text_trimmed (d : ExampleText) : d.trimmed.text = Text.trim d.text := by
  obtain ⟨lead, blocks⟩ := d
  unfold trimmed text
  by_cases hne : blocks = []
  · subst hne
    simp
  · have hstart : Text.trimStart (blocks.flatMap ExampleBlock.text) =
        blocks.flatMap ExampleBlock.text := by
      refine Text.trimStart_of_head fun c hc => ?_
      obtain ⟨b, rest, rfl⟩ := List.exists_cons_of_ne_nil hne
      rw [List.flatMap_cons, ExampleBlock.text, marks_eq.1] at hc
      rw [← Option.some.inj hc]
      with_unfolding_all decide
    rw [if_neg hne]
    dsimp only
    rw [← trimEnd_flatMap_text, Text.trim, Text.trimStart_append fun _ => hstart,
      Text.trimEnd_append fun hblank => absurd hblank (not_isBlank_flatMap_text hne)]

theorem isPlain_of_mem_trimLast (hblocks : ∀ b ∈ blocks, b.IsPlain) :
    ∀ b ∈ trimLast blocks, b.IsPlain := by
  induction blocks with
  | nil => exact hblocks
  | cons b blocks ih =>
    have hb := hblocks b List.mem_cons_self
    cases blocks with
    | nil =>
      intro c hc
      rw [List.mem_singleton.mp hc]
      obtain ⟨tail, _, htail⟩ := Text.exists_trimEnd_append_blank b.behind
      exact ⟨hb.inside_ne, hb.inside, fun hmark => hb.behind (hmark.mono ⟨[], tail, htail.symm⟩)⟩
    | cons c blocks =>
      intro e he
      rcases List.mem_cons.mp he with rfl | he
      · exact hb
      · exact ih (fun other hother => hblocks other (List.mem_cons_of_mem b hother)) e he

theorem IsPlain.trimmed {d : ExampleText} (h : d.IsPlain) : d.trimmed.IsPlain := by
  unfold ExampleText.trimmed
  split
  · exact ⟨fun hmark => h.lead (hmark.mono (Text.trim_infix d.lead)), nofun⟩
  · exact ⟨fun hmark => h.lead (hmark.mono (List.dropWhile_suffix _).isInfix),
      isPlain_of_mem_trimLast h.blocks⟩

end ExampleText

end Examples

end Bindery.Markup
