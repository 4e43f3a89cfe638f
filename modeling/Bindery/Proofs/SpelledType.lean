import Bindery.Proofs.DeclaredName
import Bindery.Proofs.Layout

/-!
# Types by their spelling

A header spells a type as its base type, with `const` in front or not, a star for every pointer and
the size of an array behind. The rules for types tell these parts apart again, whatever the base
type is called.
-/

namespace Bindery

namespace Text

variable {t : Text}

/-- Stars and spaces. -/
def IsStarry (t : Text) : Prop := ∀ c ∈ t, c = '*' ∨ c = ' '

section Starry

variable {tail : Text} (h : IsStarry tail)
include h

theorem IsStarry.not_mem {c : Char} (hstar : c ≠ '*') (hspace : c ≠ ' ') : c ∉ tail :=
  fun hmem => (h c hmem).elim hstar hspace

/-- What stands in front of stars and spaces can be told from them. -/
theorem IsStarry.disjoint {word : Text} (hstar : '*' ∉ word) (hspace : ' ' ∉ word) :
    ∀ c ∈ tail, c ∉ word := by
  intro c hc
  rcases h c hc with rfl | rfl
  · exact hstar
  · exact hspace

/-- Stars and spaces have no case and are not looked through. -/
private theorem meetsCased_append_starry : meetsCased (t ++ tail) = meetsCased t := by
  have htail : meetsCased tail = false := by
    cases tail with
    | nil => rfl
    | cons c tail => rcases h c List.mem_cons_self with rfl | rfl <;> rfl
  induction t with
  | nil => exact htail
  | cons c t ih =>
    unfold meetsCased at ih ⊢
    rw [List.cons_append, List.dropWhile_cons, List.dropWhile_cons]
    by_cases hc : isCaseIgnorable c = true
    · rw [if_pos hc, if_pos hc]
      exact ih
    · rw [if_neg hc, if_neg hc]

private theorem lowerAfter_append_starry (seen : Text) :
    lowerAfter seen (t ++ tail) = lowerAfter seen t ++ tail := by
  have htail : ∀ (tail seen : Text), IsStarry tail → lowerAfter seen tail = tail := by
    intro tail
    induction tail with
    | nil => exact fun _ _ => rfl
    | cons c tail ih =>
      intro seen h
      rw [lowerAfter, ih _ fun d hd => h d (List.mem_cons_of_mem c hd)]
      rcases h c List.mem_cons_self with rfl | rfl <;> rfl
  induction t generalizing seen with
  | nil => exact htail tail seen h
  | cons c t ih =>
    rw [List.cons_append, lowerAfter, lowerAfter, ih, meetsCased_append_starry h,
      List.append_assoc]

/-- The small form of a text with stars and spaces behind it. -/
theorem lower_append_starry : lower (t ++ tail) = lower t ++ tail :=
  lowerAfter_append_starry h []

/-- Blanks behind a text are trimmed off, and no star is among them. -/
theorem IsStarry.exists_trimEnd_append (hlast : trimEnd t = t) :
    ∃ stars, IsStarry stars ∧ stars.count '*' = tail.count '*' ∧
      trimEnd (t ++ tail) = t ++ stars := by
  obtain ⟨blank, hblank, htail⟩ := exists_trimEnd_append_blank tail
  refine ⟨trimEnd tail, fun c hc => h c ?_, ?_, trimEnd_append fun _ => hlast⟩
  · rw [htail]
    exact List.mem_append_left blank hc
  · have hcount : blank.count '*' = 0 :=
      List.count_eq_zero_of_not_mem fun hmem => absurd (hblank '*' hmem) (by decide)
    conv_rhs => rw [htail, List.count_append, hcount, Nat.add_zero]

end Starry

end Text

/-! ## Parts of a spelling -/

/-- A base type as a header spells it: words with spaces between them, none of which is `const`. -/
structure IsBaseType (t : Text) : Prop where
  /-- There are words and spaces only. -/
  chars : ∀ c ∈ t, Text.isWord c = true ∨ c = ' '
  /-- A word comes first. -/
  head : t.head?.any Text.isWord = true
  /-- A word comes last. -/
  last : t.getLast?.any Text.isWord = true
  /-- No word is the qualifier. -/
  unqualified : Text.ofString "const" ∉ Text.words t

/-- A number in brackets, behind a space. -/
def sizeText : Option Text → Text
  | some size => " [" ++ size ++ [']']
  | none => []

/-- A type as a header spells it. -/
def spelledType (constant : Bool) (base : Text) (pointers : Nat) (size : Option Text) : Text :=
  (if constant then ("const " : Text) else []) ++ base ++ List.replicate pointers '*' ++
    sizeText size

/-- A decimal number. -/
def IsDecimal (size : Text) : Prop := size ≠ [] ∧ ∀ c ∈ size, c.isDigit = true

instance (size : Text) : Decidable (IsDecimal size) := inferInstanceAs (Decidable (_ ∧ _))

section Base

variable {base : Text} (h : IsBaseType base)
include h

theorem IsBaseType.ne_nil : base ≠ [] := by
  rintro rfl
  cases h.head

theorem IsBaseType.isBlank_head : ∀ c ∈ base.head?, Text.isBlank c = false := by
  intro c hc
  have hhead := h.head
  rw [Option.mem_def.mp hc] at hhead
  exact Text.isBlank_eq_false_of_isWord hhead

theorem IsBaseType.not_mem {c : Char} (hword : Text.isWord c = false) (hspace : c ≠ ' ') :
    c ∉ base := by
  intro hmem
  rcases h.chars c hmem with hc | hc
  · rw [hword] at hc
    cases hc
  · exact hspace hc

end Base

/-- A wordy name is a base type, unless it is the qualifier itself. -/
theorem Text.IsWordy.isBaseType {name : Text} (h : IsWordy name) (hne : name ≠ [])
    (hconst : name ≠ Text.ofString "const") : IsBaseType name where
  chars := fun c hc => Or.inl (h c hc)
  head := by
    obtain ⟨c, t, rfl⟩ := List.exists_cons_of_ne_nil hne
    exact h c List.mem_cons_self
  last := by
    rw [List.getLast?_eq_some_getLast hne]
    exact h _ (List.getLast_mem hne)
  unqualified := by
    rw [Text.words_of_forall hne fun c hc => Text.isBlank_eq_false_of_isWord (h c hc),
      List.mem_singleton]
    exact Ne.symm hconst

/-! ## Telling the parts apart -/

section Parts

variable {t : Text}

theorem takeSize?_eq_none_of_not_mem (h : ']' ∉ t) : takeSize? t = none := by
  unfold takeSize?
  split
  · next rest hrest =>
    refine absurd ?_ h
    rw [← List.mem_reverse, hrest]
    exact List.mem_cons_self
  · rfl

theorem isSizePart_of_isDigit {c : Char} (h : c.isDigit = true) : isSizePart c = true := by
  rw [isSizePart, h, Bool.true_or, Bool.true_or]

theorem takeSize?_append_sizeText {size : Text} (hsize : IsDecimal size) (hline : '\n' ∉ t) :
    takeSize? (t ++ sizeText (some size)) = some (t ++ [' '], size) := by
  have hreverse : (t ++ sizeText (some size)).reverse =
      ']' :: (size.reverse ++ '[' :: ' ' :: t.reverse) := by
    simp [sizeText, Text.ofString_eq]
  have hdigits : ∀ c ∈ size.reverse, isSizePart c = true := fun c hc =>
    isSizePart_of_isDigit (hsize.2 c (List.mem_reverse.mp hc))
  have hbracket : isSizePart '[' = false := by decide
  have htrim : Text.trim size = size := by
    refine Text.IsWordy.trim_eq fun c hc => ?_
    have hdigit := hsize.2 c hc
    refine Text.isWord_of_isAsciiWord ?_
    rw [Text.isAsciiWord, Char.isAlphanum, hdigit, Bool.or_true, Bool.true_or]
  have hdrop : (size.reverse ++ '[' :: ' ' :: t.reverse).dropWhile isSizePart =
      '[' :: ' ' :: t.reverse := by
    rw [List.dropWhile_append_of_pos hdigits, List.dropWhile_cons, hbracket,
      if_neg Bool.false_ne_true]
  have htake : (size.reverse ++ '[' :: ' ' :: t.reverse).takeWhile isSizePart = size.reverse := by
    rw [List.takeWhile_append_of_pos hdigits, List.takeWhile_cons, hbracket,
      if_neg Bool.false_ne_true, List.append_nil]
  simp [takeSize?, hreverse, hdrop, htake, htrim, hsize.1, hline]

theorem constRule_of_ne {c : Char} (hc : c ≠ 'c') (last : Option Char) :
    constRule last c t = none := by
  have hafter : Text.after? (Text.ofString "const") (c :: t) = none := by
    rw [Text.ofString_eq]
    exact if_neg (Ne.symm hc)
  rw [constRule, hafter]
  split <;> rfl

theorem rewriteFrom_constRule_of_not_mem (h : 'c' ∉ t) (last : Option Char) :
    Text.rewriteFrom constRule last 0 t = t := by
  induction t generalizing last with
  | nil => rfl
  | cons c t ih =>
    have hc : c ≠ 'c' := fun he => h (he ▸ List.mem_cons_self)
    rw [Text.rewriteFrom, constRule_of_ne hc]
    exact congrArg (c :: ·) (ih (fun hmem => h (List.mem_cons_of_mem c hmem)) _)

/-- The qualifier is left out where it is a word of its own. -/
theorem rewriteFrom_constRule_qualifier {last : Option Char}
    (hlast : ∀ c ∈ last, Text.isWord c = false) (ht : Text.endsWordBefore t = true) :
    Text.rewriteFrom constRule last 0 ("const" ++ t) =
      Text.rewriteFrom constRule (some 't') 0 t := by
  have hconst : Text.ofString "const" = 'c' :: ['o', 'n', 's', 't'] := by
    with_unfolding_all decide
  have hstart : (last.map (!Text.isWord ·)).getD true = true := by
    cases last with
    | none => rfl
    | some c => simp [hlast c rfl]
  have hrule : constRule last 'c' (['o', 'n', 's', 't'] ++ t) = some ⟨[], 4⟩ := by
    rw [constRule, if_pos hstart, ← List.cons_append, ← hconst, Text.after?_append]
    exact if_pos ht
  rw [hconst, List.cons_append, Text.rewriteFrom, hrule]
  rfl

/-- A word with blanks around it is a word of the whole text. -/
theorem Text.mem_words_of_blanks {left word right : Text} (hne : word ≠ [])
    (hword : ∀ c ∈ word, Text.isBlank c = false)
    (hleft : ∀ c ∈ left.getLast?, Text.isBlank c = true)
    (hright : ∀ c ∈ right.head?, Text.isBlank c = true) :
    word ∈ Text.words (left ++ (word ++ right)) := by
  have htail : word ∈ Text.words (word ++ right) := by
    cases right with
    | nil =>
      rw [List.append_nil, Text.words_of_forall hne hword]
      exact List.mem_singleton_self word
    | cons c right =>
      rw [Text.words_append_blank (hright c rfl), Text.words_of_forall hne hword]
      exact List.mem_cons_self
  rcases List.eq_nil_or_concat' left with rfl | ⟨left, c, rfl⟩
  · exact htail
  · rw [List.append_assoc, List.singleton_append,
      Text.words_append_blank (hleft c List.getLast?_concat)]
    exact List.mem_append_right _ htail

end Parts

section Base

variable {base rest : Text}

/-- The qualifier is not recognised in a base type. -/
theorem IsBaseType.constRule_eq_none (h : IsBaseType base)
    (hrest : ∀ c ∈ rest.head?, c = '*' ∨ c = ' ')
    {left t : Text} {c : Char} (hbase : base = left ++ c :: t) {last : Option Char}
    (hlast : left ≠ [] → last = left.getLast?) : constRule last c (t ++ rest) = none := by
  have hblank : ∀ d ∈ base, Text.isWord d = false → Text.isBlank d = true := by
    intro d hd hword
    rcases h.chars d hd with hd | rfl
    · rw [hword] at hd
      cases hd
    · decide
  have hletters : ∀ d ∈ rest.head?, d ∉ Text.ofString "const" := by
    intro d hd
    rcases hrest d hd with rfl | rfl
    · with_unfolding_all decide
    · with_unfolding_all decide
  unfold constRule
  split
  · next hlead =>
    rw [← List.cons_append, Text.after?_append_of_disjoint hletters]
    cases hafter : Text.after? (Text.ofString "const") (c :: t) with
    | none => rfl
    | some right =>
      rw [Text.after?_eq_some_iff.mp hafter] at hbase
      refine if_neg fun hends => h.unqualified ?_
      rw [hbase]
      refine Text.mem_words_of_blanks (by with_unfolding_all decide)
        (by with_unfolding_all decide) ?_ ?_
      · intro d hd
        have hne : left ≠ [] := by
          rintro rfl
          cases hd
        rw [hlast hne, Option.mem_def.mp hd] at hlead
        refine hblank d ?_ (by simpa using hlead)
        rw [hbase]
        exact List.mem_append_left _ (List.mem_of_getLast? hd)
      · intro d hd
        obtain ⟨right, rfl⟩ := List.head?_eq_some_iff.mp hd
        refine hblank d ?_ (by simpa [Text.endsWordBefore] using hends)
        rw [hbase]
        exact List.mem_append_right _ (List.mem_append_right _ List.mem_cons_self)
  · rfl

/-- Looking for the qualifier goes through a base type without a change. -/
theorem IsBaseType.rewriteFrom_constRule (h : IsBaseType base)
    (hrest : ∀ c ∈ rest.head?, c = '*' ∨ c = ' ') (last : Option Char) :
    Text.rewriteFrom constRule last 0 (base ++ rest) =
      base ++ Text.rewriteFrom constRule base.getLast? 0 rest := by
  -- What stands before the rest to be read is the part of the base type that has been read.
  have hend : ∀ (t left : Text) (last : Option Char), base = left ++ t →
      (left ≠ [] → last = left.getLast?) →
        Text.rewriteFrom constRule last 0 (t ++ rest) =
          t ++ Text.rewriteFrom constRule base.getLast? 0 rest := by
    intro t
    induction t with
    | nil =>
      intro left last hbase hlast
      rw [List.append_nil] at hbase
      rw [hlast (hbase ▸ h.ne_nil), ← hbase]
      rfl
    | cons c t ih =>
      intro left last hbase hlast
      rw [List.cons_append, Text.rewriteFrom, h.constRule_eq_none hrest hbase hlast]
      refine congrArg (c :: ·) (ih (left ++ [c]) (some c) ?_ fun _ => List.getLast?_concat.symm)
      rw [hbase, List.append_assoc, List.singleton_append]
  exact hend base [] last rfl (absurd rfl)

/-- The qualifier is left out in front of a base type. -/
theorem IsBaseType.rewrite_constRule (h : IsBaseType base) (hrest : Text.IsStarry rest)
    (constant : Bool) :
    Text.rewrite constRule ((if constant then ("const " : Text) else []) ++ (base ++ rest)) =
      (if constant then [' '] else []) ++ (base ++ rest) := by
  have hbase : ∀ last, Text.rewriteFrom constRule last 0 (base ++ rest) = base ++ rest := by
    intro last
    rw [h.rewriteFrom_constRule (fun c hc => hrest c (List.mem_of_mem_head? hc)),
      rewriteFrom_constRule_of_not_mem (hrest.not_mem (by decide) (by decide))]
  cases constant with
  | false => exact hbase none
  | true =>
    have hlead : Text.ofString "const " = Text.ofString "const" ++ [' '] := by
      with_unfolding_all decide
    rw [if_pos rfl, if_pos rfl, hlead, List.append_assoc, Text.rewrite,
      rewriteFrom_constRule_qualifier (fun c hc => absurd hc (Option.not_mem_none c)) rfl,
      List.singleton_append, Text.rewriteFrom, constRule_of_ne (by decide), hbase]

theorem widthName_append_starry (t : Text) (hrest : Text.IsStarry rest) :
    widthName (t ++ rest) = widthName t ++ rest := by
  have hoccurs : ∀ word : Text, '*' ∉ word → ' ' ∉ word →
      Text.occurs word (t ++ rest) = Text.occurs word t := by
    intro word hstar hspace
    rw [Bool.eq_iff_iff, Text.occurs_iff, Text.occurs_iff]
    exact Text.infix_append_of_disjoint (hrest.disjoint hstar hspace)
  have hlead : ∀ c ∈ rest.head?, c ∉ libraryLead := fun c hc =>
    hrest.disjoint (by with_unfolding_all decide) (by with_unfolding_all decide) c
      (List.mem_of_mem_head? hc)
  unfold widthName
  rw [Text.after?_append_of_disjoint hlead,
    hoccurs _ (by with_unfolding_all decide) (by with_unfolding_all decide),
    hoccurs _ (by with_unfolding_all decide) (by with_unfolding_all decide),
    hoccurs _ (by with_unfolding_all decide) (by with_unfolding_all decide)]
  cases Text.after? libraryLead t with
  | none => rfl
  | some bare =>
    simp only [Option.map_some]
    split
    · exact Text.lower_append_starry hrest
    · rfl

/-- No star comes into a name. -/
theorem star_not_mem_widthName {t : Text} (h : '*' ∉ t) : '*' ∉ widthName t := by
  unfold widthName
  split
  · next bare hbare =>
    rw [Text.after?_eq_some_iff.mp hbare] at h
    split
    · exact fun hmem => h (List.mem_append_right _ (Text.mem_of_mem_lower hmem (by decide)))
    · rwa [Text.after?_eq_some_iff.mp hbare]
  · exact h

end Base

/-- The base name that the rules for types find in a base type. -/
def baseNameOf (base : Text) : Text := (CType.ofText base).base

/-- What is left of a spelling without its size: a text with a size in brackets at its end is that
text without it, and any other text is itself. -/
def cutSize (t : Text) : Text × Option Text :=
  match takeSize? t with
  | some (inner, size) => (inner, some size)
  | none => (t, none)

section Whole

variable {base : Text} (h : IsBaseType base) (constant : Bool) (pointers : Nat)
include h

/-- What is found in a spelling from which the qualifier is gone. -/
private theorem ofText_eq_of_cutSize {t inner lead tail : Text} {size : Option Text}
    (hcut : cutSize t = (inner, size))
    (hrewrite : Text.rewrite constRule inner = lead ++ (base ++ tail)) (hlead : Text.IsBlank lead)
    (htail : Text.IsStarry tail) :
    CType.ofText t =
      let bare := Text.trim ((widthName base).reverse.dropWhile isPointerPart).reverse
      ⟨(baseNames.lookup bare).getD bare, tail.count '*', size⟩ := by
  have hstart : Text.trimStart (base ++ tail) = base ++ tail := by
    refine Text.trimStart_of_head fun c hc => h.isBlank_head c ?_
    rwa [List.head?_append_of_ne_nil _ h.ne_nil] at hc
  have hend : Text.trimEnd base = base := by
    refine Text.trimEnd_of_getLast fun c hc => ?_
    have hlast := h.last
    rw [Option.mem_def.mp hc] at hlast
    exact Text.isBlank_eq_false_of_isWord hlast
  obtain ⟨stars, hstars, hcount, htrim⟩ := htail.exists_trimEnd_append hend
  have hname : Text.trim (Text.rewrite constRule inner) = base ++ stars := by
    rw [hrewrite, Text.trim, Text.trimStart_append fun _ => hstart,
      Text.trimStart_eq_nil_iff.mpr hlead, List.nil_append, htrim]
  have hparts : ∀ c ∈ stars.reverse, isPointerPart c = true := by
    intro c hc
    rcases hstars c (List.mem_reverse.mp hc) with rfl | rfl <;> rfl
  have hnone : ((widthName base).reverse.takeWhile isPointerPart).count '*' = 0 :=
    List.count_eq_zero_of_not_mem fun hmem =>
      star_not_mem_widthName (h.not_mem isWord_star (by decide))
        (List.mem_reverse.mp ((List.takeWhile_prefix _).subset hmem))
  have hopen : CType.ofText t =
      let name := widthName (Text.trim (Text.rewrite constRule (cutSize t).1))
      let stars := name.reverse.takeWhile isPointerPart
      let bare := Text.trim (name.reverse.dropWhile isPointerPart).reverse
      ⟨(baseNames.lookup bare).getD bare, stars.count '*', (cutSize t).2⟩ := rfl
  rw [hopen, hcut]
  dsimp only
  rw [hname, widthName_append_starry base hstars, List.reverse_append,
    List.dropWhile_append_of_pos hparts, List.takeWhile_append_of_pos hparts, List.count_append,
    List.count_reverse, hnone, hcount, Nat.add_zero]

/-- What is found in a base type alone. -/
private theorem ofText_eq_of_isBaseType :
    CType.ofText base =
      let bare := Text.trim ((widthName base).reverse.dropWhile isPointerPart).reverse
      ⟨(baseNames.lookup bare).getD bare, 0, none⟩ := by
  have hcut : cutSize base = (base, none) := by
    rw [cutSize, takeSize?_eq_none_of_not_mem (h.not_mem (by decide) (by decide))]
  have hnone : Text.IsStarry [] := nofun
  have hrewrite : Text.rewrite constRule base = [] ++ (base ++ []) := by
    simpa using h.rewrite_constRule hnone false
  exact ofText_eq_of_cutSize h hcut hrewrite nofun hnone

/-- A spelling is taken apart into its base type, the stars that are left of it without the
qualifier and its size. -/
theorem CType.ofText_of_cutSize {t inner lead tail : Text} {size : Option Text}
    (hcut : cutSize t = (inner, size))
    (hrewrite : Text.rewrite constRule inner = lead ++ (base ++ tail)) (hlead : Text.IsBlank lead)
    (htail : Text.IsStarry tail) : CType.ofText t = ⟨baseNameOf base, tail.count '*', size⟩ := by
  rw [baseNameOf, ofText_eq_of_isBaseType h, ofText_eq_of_cutSize h hcut hrewrite hlead htail]

/-- A base type that is used as a wordy name is known by that, or by the fixed name for it. -/
theorem baseNameOf_eq (hw : Text.IsWordy (widthName base)) :
    baseNameOf base = (baseNames.lookup (widthName base)).getD (widthName base) := by
  rw [baseNameOf, ofText_eq_of_isBaseType h]
  dsimp only
  rw [hw.dropWhile_isPointerPart, List.reverse_reverse, hw.trim_eq]

/-- **A spelling is taken apart** into its base type, its pointers and its size. -/
theorem CType.ofText_spelledType {size : Option Text} (hsize : ∀ s ∈ size, IsDecimal s) :
    CType.ofText (spelledType constant base pointers size) =
      ⟨baseNameOf base, pointers, size⟩ := by
  have hnot : ∀ c, Text.isWord c = false → c ≠ ' ' → c ≠ '*' →
      c ∉ spelledType constant base pointers none := by
    intro c hword hspace hstar hmem
    have hbase := h.not_mem hword hspace
    have hconst : c ∉ Text.ofString "const " := by
      intro hmem
      have hall : ∀ d ∈ Text.ofString "const ", Text.isWord d = true ∨ d = ' ' := by
        with_unfolding_all decide
      rcases hall c hmem with hc | hc
      · rw [hword] at hc
        cases hc
      · exact hspace hc
    cases constant <;> simp_all [spelledType, sizeText]
  have hparts : ∀ tail, spelledType constant base pointers none ++ tail =
      (if constant then ("const " : Text) else []) ++
        (base ++ (List.replicate pointers '*' ++ tail)) := by
    simp [spelledType, sizeText]
  have hlead : Text.IsBlank (if constant then [' '] else []) := by
    cases constant <;> decide
  have hstars : ∀ c ∈ List.replicate pointers '*', c = '*' ∨ c = ' ' :=
    fun c hc => Or.inl (List.eq_of_mem_replicate hc)
  cases size with
  | none =>
    have hcut : cutSize (spelledType constant base pointers none) =
        (spelledType constant base pointers none, none) := by
      rw [cutSize, takeSize?_eq_none_of_not_mem (hnot ']' (by decide) (by decide) (by decide))]
    have hrewrite := h.rewrite_constRule hstars constant
    have hwhole := hparts []
    rw [List.append_nil, List.append_nil] at hwhole
    rw [← hwhole] at hrewrite
    rw [CType.ofText_of_cutSize h hcut hrewrite hlead hstars, List.count_replicate_self]
  | some size =>
    have hcut : cutSize (spelledType constant base pointers (some size)) =
        (spelledType constant base pointers none ++ [' '], some size) := by
      have happend : spelledType constant base pointers (some size) =
          spelledType constant base pointers none ++ sizeText (some size) := by
        simp [spelledType, sizeText]
      rw [cutSize, happend, takeSize?_append_sizeText (hsize size rfl)
        (hnot '\n' (by decide) (by decide) (by decide))]
    have hblank : Text.IsStarry (List.replicate pointers '*' ++ [' ']) := by
      intro c hc
      exact (List.mem_append.mp hc).elim (hstars c) fun hc => Or.inr (List.mem_singleton.mp hc)
    have hrewrite := h.rewrite_constRule hblank constant
    rw [← hparts] at hrewrite
    rw [CType.ofText_of_cutSize h hcut hrewrite hlead hblank, List.count_append,
      List.count_replicate_self]
    rfl

end Whole

/-! ## Target types -/

section Targets

variable {handles : Handles}

/-- Only a pointer to nothing in particular has a name of its own. -/
theorem TargetType.ofVoid_eq_self {t : CType}
    (h : ¬ (0 < t.pointers ∧ t.base = Text.ofString "void")) : ofVoid t = t :=
  if_neg (by simpa using h)

theorem libraryLead_append_ne_void (name : Text) : libraryLead ++ name ≠ Text.ofString "void" :=
  libraryLead_append_ne (by with_unfolding_all decide) name

theorem TargetType.ofVoid_libraryLead (name : Text) (pointers : Nat) (size : Option Text) :
    ofVoid ⟨libraryLead ++ name, pointers, size⟩ = ⟨libraryLead ++ name, pointers, size⟩ :=
  ofVoid_eq_self fun h => libraryLead_append_ne_void name h.2

/-- Nothing goes by a plural that has no name. -/
theorem isOtherPlural_nil (type : Text) : isOtherPlural [] type = false := by
  simp [isOtherPlural, Text.endsWith, Text.before?, Text.ofString_eq, Text.after?]

/-- The target type of a C type that goes by no name, unless it points to nothing in particular. -/
theorem ofCType_nil {b : Text} {pointers : Nat}
    (hvoid : ¬ (0 < pointers ∧ b = Text.ofString "void")) (size : Option Text) :
    TargetType.ofCType handles [] ⟨b, pointers, size⟩ =
      if 0 < pointers ∧ Text.startsWith libraryLead b = true then
        ⟨pointers - 1, !decide ((bareName? b).getD b ∈ handles), (bareName? b).getD b, size⟩
      else ⟨pointers, false, (bareName? b).getD b, size⟩ := by
  rw [TargetType.ofCType, TargetType.ofVoid_eq_self hvoid]
  by_cases hlibrary : 0 < pointers ∧ Text.startsWith libraryLead b = true
  · rw [if_pos hlibrary, if_pos (by simpa using hlibrary)]
    by_cases hmem : (bareName? b).getD b ∈ handles
    · rw [if_pos (List.contains_iff_mem.mpr hmem), decide_eq_true hmem]
      rfl
    · rw [if_neg fun h => hmem (List.contains_iff_mem.mp h), isOtherPlural_nil,
        if_neg Bool.false_ne_true, decide_eq_false hmem]
      rfl
  · rw [if_neg hlibrary, if_neg (by simpa using hlibrary)]

theorem ofCType_void {pointers : Nat} (hpos : 0 < pointers) (hint : Text) (size : Option Text) :
    TargetType.ofCType handles hint ⟨Text.ofString "void", pointers, size⟩ =
      ⟨pointers - 1, false, Text.ofString "pointer", size⟩ := by
  have hvoid : TargetType.ofVoid ⟨Text.ofString "void", pointers, size⟩ =
      ⟨Text.ofString "pointer", pointers - 1, size⟩ := if_pos (by simp [hpos])
  have hbare : (bareName? (Text.ofString "pointer")).getD (Text.ofString "pointer") =
      Text.ofString "pointer" := by
    with_unfolding_all decide
  have hlead : Text.startsWith libraryLead (Text.ofString "pointer") = false := by
    with_unfolding_all decide
  rw [TargetType.ofCType, hvoid]
  dsimp only
  rw [hbare, hlead, Bool.and_false, if_neg Bool.false_ne_true]

end Targets

end Bindery
