import Bindery.Proofs.KnownHandles
import Bindery.Proofs.ReferenceMark
import Bindery.Proofs.SpelledType

/-!
# Pointers by their number

A C type may have qualifiers and spaces before and behind its base type and around its stars, and
none of them shows in the target language. What shows is how many stars there are: each is a mark in
front of the name that is written, but for the one that the name itself stands for.
-/

namespace Bindery

/-! ## Qualifiers and spaces -/

/-- Qualifiers and spaces, of which a space follows every qualifier that is not the last. -/
inductive IsFiller : Text → Prop where
  | nil : IsFiller []
  | space {t : Text} : IsFiller t → IsFiller (' ' :: t)
  | qualifier {t : Text} : IsFiller t → (∀ c ∈ t.head?, c = ' ') → IsFiller ("const" ++ t)

section Fillers

variable {t : Text}

theorem IsFiller.mem_or (h : IsFiller t) {c : Char} (hc : c ∈ t) :
    c ∈ Text.ofString "const" ∨ c = ' ' := by
  induction h with
  | nil => cases hc
  | space _ ih =>
    rcases List.mem_cons.mp hc with rfl | hc
    · exact Or.inr rfl
    · exact ih hc
  | qualifier _ _ ih => exact (List.mem_append.mp hc).elim Or.inl ih

theorem endsWordBefore_of_head? {rest : Text} (h : ∀ c ∈ t.head?, c = ' ')
    (hrest : t = [] → Text.endsWordBefore rest = true) :
    Text.endsWordBefore (t ++ rest) = true := by
  cases t with
  | nil => exact hrest rfl
  | cons c t =>
    rw [h c rfl]
    rfl

/-- Only spaces are left of a filler, where words end at both ends of it. -/
theorem IsFiller.exists_rewriteFrom (h : IsFiller t) (last : Option Char) {rest : Text}
    (hstart : (∀ c ∈ last, Text.isWord c = false) ∨ ∀ c ∈ t.head?, c = ' ')
    (hend : Text.endsWordBefore rest = true ∨ ∀ c ∈ t.getLast?, c = ' ') :
    ∃ spaces, (∀ c ∈ spaces, c = ' ') ∧ Text.rewriteFrom constRule last 0 (t ++ rest) =
      spaces ++ Text.rewriteFrom constRule (t.getLast?.or last) 0 rest := by
  induction h generalizing last with
  | nil => exact ⟨[], nofun, rfl⟩
  | @space t _ ih =>
    have hlast : (' ' :: t).getLast?.or last = t.getLast?.or (some ' ') := by
      cases t <;> rfl
    obtain ⟨spaces, hspaces, hrewrite⟩ := ih (some ' ') (Or.inl fun c hc => by
      rw [← Option.some.inj hc]; rfl) (hend.imp_right fun hall c hc => hall c (by
      rw [List.getLast?_cons, hc]; rfl))
    refine ⟨' ' :: spaces, fun c hc => ?_, ?_⟩
    · exact (List.mem_cons.mp hc).elim id (hspaces c)
    · rw [List.cons_append, Text.rewriteFrom, constRule_of_ne (by decide), hrewrite, hlast]
      rfl
  | @qualifier t _ hspace ih =>
    have hword : Text.ofString "const" = ['c', 'o', 'n', 's'] ++ ['t'] := by
      with_unfolding_all decide
    have hlast : (Text.ofString "const" ++ t).getLast?.or last = t.getLast?.or (some 't') := by
      rw [List.getLast?_append, hword, List.getLast?_concat]
      cases t.getLast? <;> rfl
    have hstart' : ∀ c ∈ last, Text.isWord c = false := by
      refine hstart.resolve_right fun hall => ?_
      exact absurd (hall 'c' (by rw [hword]; rfl)) (by decide)
    have hafter : t = [] → Text.endsWordBefore rest = true := by
      rintro rfl
      refine hend.resolve_right fun hall => ?_
      exact absurd (hall 't' (by with_unfolding_all decide)) (by decide)
    obtain ⟨spaces, hspaces, hrewrite⟩ := ih (some 't') (Or.inr hspace)
      (hend.imp_right fun hall c hc => hall c (by rw [List.getLast?_append, hc]; rfl))
    refine ⟨spaces, hspaces, ?_⟩
    rw [List.append_assoc, rewriteFrom_constRule_qualifier hstart'
      (endsWordBefore_of_head? hspace hafter), hrewrite, hlast]

end Fillers

/-! ## Loose spellings -/

/-- What stands around the base type and the stars of a C type: qualifiers and spaces, with a space
between a qualifier and the base type. -/
structure Spacing where
  /-- What precedes the base type. -/
  lead : Text
  /-- What follows it. -/
  behind : Text
  /-- What follows each star. -/
  stars : List Text
  lead_isFiller : IsFiller lead
  lead_apart : ∀ c ∈ lead.getLast?, c = ' '
  behind_isFiller : IsFiller behind
  behind_apart : ∀ c ∈ behind.head?, c = ' '
  stars_isFiller : ∀ t ∈ stars, IsFiller t

/-- Stars, each with what follows it. -/
def starred (fillers : List Text) : Text := fillers.flatMap ('*' :: ·)

/-- A C type spelled with such things around its parts. -/
def Spacing.spell (s : Spacing) (base : Text) : Text :=
  s.lead ++ (base ++ (s.behind ++ starred s.stars))

section Loose

theorem endsWordBefore_starred (fillers : List Text) :
    Text.endsWordBefore (starred fillers) = true := by
  cases fillers <;> rfl

/-- The stars are left of themselves and what follows them, and otherwise only spaces. -/
theorem exists_rewriteFrom_starred {fillers : List Text} (h : ∀ t ∈ fillers, IsFiller t)
    (last : Option Char) :
    ∃ tail, Text.IsStarry tail ∧ tail.count '*' = fillers.length ∧
      Text.rewriteFrom constRule last 0 (starred fillers) = tail := by
  induction fillers generalizing last with
  | nil => exact ⟨[], nofun, rfl, rfl⟩
  | cons t fillers ih =>
    have hstar : ∀ c ∈ some '*', Text.isWord c = false := by
      intro c hc
      rw [← Option.some.inj hc]
      exact isWord_star
    obtain ⟨spaces, hspaces, hfiller⟩ := (h t List.mem_cons_self).exists_rewriteFrom (some '*')
      (Or.inl hstar) (Or.inl (endsWordBefore_starred fillers))
    obtain ⟨tail, htail, hcount, hstars⟩ := ih (fun s hs => h s (List.mem_cons_of_mem t hs))
      (t.getLast?.or (some '*'))
    refine ⟨'*' :: (spaces ++ tail), ?_, ?_, ?_⟩
    · intro c hc
      rcases List.mem_cons.mp hc with rfl | hc
      · exact Or.inl rfl
      · exact (List.mem_append.mp hc).elim (fun hc => Or.inr (hspaces c hc)) (htail c)
    · have hnone : spaces.count '*' = 0 :=
        List.count_eq_zero_of_not_mem fun hmem => absurd (hspaces '*' hmem) (by decide)
      rw [List.count_cons_self, List.count_append, hnone, hcount, Nat.zero_add, List.length_cons]
    · rw [starred, List.flatMap_cons, List.cons_append, Text.rewriteFrom,
        constRule_of_ne (by decide)]
      exact congrArg ('*' :: ·) (hfiller.trans (congrArg (spaces ++ ·) hstars))

variable {base : Text} (h : IsBaseType base) (s : Spacing)
include h

/-- The base type and the stars are left of a loose spelling, and otherwise only spaces. -/
theorem Spacing.exists_rewrite : ∃ lead tail, Text.IsBlank lead ∧ Text.IsStarry tail ∧
    tail.count '*' = s.stars.length ∧
      Text.rewrite constRule (s.spell base) = lead ++ (base ++ tail) := by
  obtain ⟨lead, hlead, hleft⟩ := @IsFiller.exists_rewriteFrom _ s.lead_isFiller none
    (base ++ (s.behind ++ starred s.stars))
    (Or.inl fun c hc => absurd hc (Option.not_mem_none c)) (Or.inr s.lead_apart)
  obtain ⟨spaces, hspaces, hbehind⟩ := s.behind_isFiller.exists_rewriteFrom base.getLast?
    (Or.inr s.behind_apart) (Or.inl (endsWordBefore_starred s.stars))
  obtain ⟨tail, htail, hcount, hstars⟩ := exists_rewriteFrom_starred s.stars_isFiller
    (s.behind.getLast?.or base.getLast?)
  have hhead : ∀ c ∈ (s.behind ++ starred s.stars).head?, c = '*' ∨ c = ' ' := by
    intro c hc
    cases hfirst : s.behind.head? with
    | some d =>
      rw [List.head?_append, hfirst, Option.some_or] at hc
      exact Or.inr (s.behind_apart c (hfirst.trans hc))
    | none =>
      rw [List.head?_append, hfirst, Option.none_or] at hc
      cases hnone : s.stars with
      | nil =>
        rw [hnone] at hc
        cases hc
      | cons t fillers =>
        rw [hnone] at hc
        exact Or.inl (Option.some.inj hc).symm
  refine ⟨lead, spaces ++ tail, fun c hc => ?_, ?_, ?_, ?_⟩
  · rw [hlead c hc]
    rfl
  · exact fun c hc => (List.mem_append.mp hc).elim (fun hc => Or.inr (hspaces c hc)) (htail c)
  · have hnone : spaces.count '*' = 0 :=
      List.count_eq_zero_of_not_mem fun hmem => absurd (hspaces '*' hmem) (by decide)
    rw [List.count_append, hnone, hcount, Nat.zero_add]
  · rw [spell, Text.rewrite, hleft, h.rewriteFrom_constRule hhead, hbehind, hstars]

/-- A loose spelling is taken apart into its base type and its stars. -/
theorem Spacing.ofText_spell :
    CType.ofText (s.spell base) = ⟨baseNameOf base, s.stars.length, none⟩ := by
  obtain ⟨lead, tail, hlead, htail, hcount, hrewrite⟩ := s.exists_rewrite h
  have hfiller : ∀ {t : Text}, IsFiller t → ']' ∉ t := by
    intro t ht hmem
    rcases ht.mem_or hmem with hmem | hmem
    · exact absurd hmem (by with_unfolding_all decide)
    · exact absurd hmem (by decide)
  have hbracket : ']' ∉ s.spell base := by
    simp only [spell, starred, List.mem_append, List.mem_flatMap, List.mem_cons, not_or]
    refine ⟨hfiller s.lead_isFiller, h.not_mem (by decide) (by decide),
      hfiller s.behind_isFiller, ?_⟩
    rintro ⟨t, ht, hmem⟩
    exact hmem.elim (by decide) (hfiller (s.stars_isFiller t ht))
  have hcut : cutSize (s.spell base) = (s.spell base, none) := by
    rw [cutSize, takeSize?_eq_none_of_not_mem hbracket]
  rw [CType.ofText_of_cutSize h hcut hrewrite hlead htail, hcount]

end Loose

/-! ## Names by their marks -/

/-- Whether a name that is written for a base type stands for a pointer: it is a C string, the
pointer to nothing in particular, or a handle. -/
def StandsForPointer (handles : Handles) (base name : Text) : Prop :=
  name = Text.ofString "cstring" ∨
    base = Text.ofString "void" ∧ name = Text.ofString "pointer" ∨ name ∈ handles

instance (handles : Handles) (base name : Text) : Decidable (StandsForPointer handles base name) :=
  inferInstanceAs (Decidable (_ ∨ _))

/-- What is written for a pointer or a reference, in front of a name. -/
def IsMark (m : Text) : Prop := m = Text.ofString "ptr " ∨ m = referenceMark

/-- Whether a type in writing has as many marks in front of a name as a number says, where the name
may stand for one pointer itself. No name has a space in it, so that the marks are all that there
are. -/
def HasDepth (handles : Handles) (base : Text) (n : Nat) (type : Text) : Prop :=
  ∃ (marks : List Text) (name : Text), type = marks.flatten ++ name ∧ (∀ m ∈ marks, IsMark m) ∧
    ' ' ∉ name ∧
      marks.length + (if 0 < n ∧ StandsForPointer handles base name then 1 else 0) = n

/-- Every mark ends with a space. -/
theorem space_mem_flatten {marks : List Text} (h : ∀ m ∈ marks, IsMark m) (hne : marks ≠ []) :
    ' ' ∈ marks.flatten := by
  obtain ⟨m, rest, rfl⟩ := List.exists_cons_of_ne_nil hne
  refine List.mem_flatten.mpr ⟨m, List.mem_cons_self, ?_⟩
  rcases h m List.mem_cons_self with rfl | rfl
  · with_unfolding_all decide
  · with_unfolding_all decide

/-- Only a pointer to characters is written as one. -/
theorem eq_of_flatten_append_eq {marks : List Text} {name : Text} (h : ∀ m ∈ marks, IsMark m)
    (hname : ' ' ∉ name) (heq : marks.flatten ++ name = Text.ofString "ptr char") :
    marks = [Text.ofString "ptr "] := by
  cases marks with
  | nil =>
    rw [List.flatten_nil, List.nil_append] at heq
    rw [heq] at hname
    exact absurd (by with_unfolding_all decide) hname
  | cons m marks =>
    have hsplit : Text.ofString "ptr char" = Text.ofString "ptr " ++ Text.ofString "char" := by
      with_unfolding_all decide
    rcases h m List.mem_cons_self with rfl | rfl
    · rw [List.flatten_cons, List.append_assoc, hsplit] at heq
      have hrest := List.append_cancel_left heq
      by_cases hne : marks = []
      · rw [hne]
      · have hspace := List.mem_append_left name
          (space_mem_flatten (fun m hm => h m (List.mem_cons_of_mem _ hm)) hne)
        rw [hrest] at hspace
        exact absurd hspace (by with_unfolding_all decide)
    · rw [referenceMark_eq, Text.ofString_eq] at heq
      exact absurd (List.cons.inj heq).1 (by decide)

namespace TargetType

variable {t : TargetType}

/-- The marks in front of the name. -/
def marks (t : TargetType) : List Text :=
  List.replicate t.pointers (Text.ofString "ptr ") ++ if t.reference then [referenceMark] else []

theorem isMark_of_mem_marks {m : Text} (h : m ∈ t.marks) : IsMark m := by
  rcases List.mem_append.mp h with h | h
  · exact Or.inl (List.eq_of_mem_replicate h)
  · split at h
    · exact Or.inr (List.mem_singleton.mp h)
    · cases h

theorem length_marks (t : TargetType) :
    t.marks.length = t.pointers + if t.reference then 1 else 0 := by
  rw [marks, List.length_append, List.length_replicate]
  cases t.reference <;> rfl

theorem written_eq_marks (t : TargetType) : t.written = t.marks.flatten ++ t.name := by
  rw [written, marks, List.flatten_append]
  cases t.reference <;> simp

/-- A type has the depth that its marks and its name give it, and one that is written as a C string
has it as well. -/
theorem hasDepth_render {handles : Handles} {base : Text} {n : Nat} (hhandles : handles.AreCapital)
    (hsize : t.size = none) (hname : ' ' ∉ t.name)
    (hcount : (t.pointers + if t.reference then 1 else 0) +
      (if 0 < n ∧ StandsForPointer handles base t.name then 1 else 0) = n) :
    HasDepth handles base n t.render := by
  rw [← length_marks] at hcount
  rw [render, hsize, renderElement_eq]
  dsimp only
  split
  · next hchar =>
    rw [written_eq_marks] at hchar
    have hmarks := eq_of_flatten_append_eq (fun _ => isMark_of_mem_marks) hname hchar
    have hsplit : Text.ofString "ptr char" = Text.ofString "ptr " ++ Text.ofString "char" := by
      with_unfolding_all decide
    have hbare : t.name = Text.ofString "char" := by
      rw [hmarks, List.flatten_singleton, hsplit] at hchar
      exact List.append_cancel_left hchar
    have hnot : ¬ StandsForPointer handles base (Text.ofString "char") := by
      rintro (hc | ⟨_, hc⟩ | hmem)
      · exact absurd hc (by with_unfolding_all decide)
      · exact absurd hc (by with_unfolding_all decide)
      · exact absurd (hhandles _ hmem) (by with_unfolding_all decide)
    rw [hmarks, hbare, if_neg fun h => hnot h.2] at hcount
    refine ⟨[], Text.ofString "cstring", rfl, fun _ hm => absurd hm List.not_mem_nil,
      by with_unfolding_all decide, ?_⟩
    rw [← hcount, if_pos ⟨Nat.one_pos, Or.inl rfl⟩]
    rfl
  · exact ⟨t.marks, t.name, written_eq_marks t, fun _ => isMark_of_mem_marks, hname, hcount⟩

end TargetType

/-! ## Depths of types -/

/-- What is known of the name that a base type goes by. -/
structure IsElementName (handles : Handles) (base name : Text) : Prop where
  space : ' ' ∉ name
  unknown : name ∉ handles
  cstring : name ≠ Text.ofString "cstring"
  unmarked : name ≠ Text.ofString "getLineSpacing"
  void : name = Text.ofString "void" ↔ base = Text.ofString "void"
  bare : ∀ rest, name = libraryLead ++ rest → rest ≠ Text.ofString "cstring"

section Depth

variable {handles : Handles} {base name : Text}

/-- A name that does not begin as those of the library do is used as it is. -/
theorem IsElementName.bareName?_eq (h : IsElementName handles base name) :
    bareName? name = Text.after? libraryLead name := by
  have hlookup : unmarkedNames.lookup name = none := by
    simp [unmarkedNames, h.unmarked]
  rw [bareName?, hlookup]

theorem IsElementName.not_standsForPointer (h : IsElementName handles base name)
    (hvoid : name ≠ Text.ofString "void") {written : Text}
    (hcstring : written ≠ Text.ofString "cstring") (hunknown : written ∉ handles) :
    ¬ StandsForPointer handles base written := by
  rintro (he | ⟨he, _⟩ | hmem)
  · exact hcstring he
  · exact hvoid (h.void.mpr he)
  · exact hunknown hmem

/-- **No pointer is lost and none is added.** The marks in front of a name are as many as the
pointers of a type, but for the one that the name stands for. -/
theorem IsElementName.hasDepth (h : IsElementName handles base name)
    (hhandles : handles.AreCapital) (hint : Text) (n : Nat) :
    HasDepth handles base n (TargetType.ofCType handles hint ⟨name, n, none⟩).render := by
  have hone : 0 < n → n - 1 + 1 = n := Nat.sub_add_cancel
  by_cases hvoid : 0 < n ∧ name = Text.ofString "void"
  · obtain ⟨hn, rfl⟩ := hvoid
    have hpointer : StandsForPointer handles base (Text.ofString "pointer") :=
      Or.inr (Or.inl ⟨h.void.mp rfl, rfl⟩)
    have hspace : ' ' ∉ Text.ofString "pointer" := by with_unfolding_all decide
    rw [ofCType_void hn hint none]
    exact TargetType.hasDepth_render hhandles rfl hspace (by simpa [hn, hpointer] using hone hn)
  · rw [TargetType.ofCType, TargetType.ofVoid_eq_self hvoid]
    dsimp only
    rw [h.bareName?_eq]
    by_cases hlibrary : 0 < n ∧ ∃ rest, name = libraryLead ++ rest
    · obtain ⟨hn, rest, rfl⟩ := hlibrary
      have hstarts : Text.startsWith libraryLead (libraryLead ++ rest) = true :=
        Text.startsWith_iff.mpr ⟨rest, rfl⟩
      have hspace : ' ' ∉ rest := fun hmem => h.space (List.mem_append_right _ hmem)
      rw [Text.after?_append, Option.getD_some, hstarts, decide_eq_true hn, if_pos (by rfl)]
      by_cases hmem : rest ∈ handles
      · have hhandle : StandsForPointer handles base rest := Or.inr (Or.inr hmem)
        rw [if_pos (List.contains_iff_mem.mpr hmem)]
        exact TargetType.hasDepth_render hhandles rfl hspace (by simpa [hn, hhandle] using hone hn)
      · have hnot : ¬ StandsForPointer handles base rest :=
          h.not_standsForPointer (fun he => hvoid ⟨hn, he⟩) (h.bare rest rfl) hmem
        rw [if_neg (mt List.contains_iff_mem.mp hmem)]
        split
        · exact TargetType.hasDepth_render hhandles rfl hspace (by simp [hnot])
        · exact TargetType.hasDepth_render hhandles rfl hspace (by simpa [hnot] using hone hn)
    · have hother : ¬ (decide (n > 0) && Text.startsWith libraryLead name) = true := by
        rwa [Bool.and_eq_true, decide_eq_true_eq, Text.startsWith_iff]
      rw [if_neg hother]
      cases hafter : Text.after? libraryLead name with
      | none =>
        have hnot : ¬ (0 < n ∧ StandsForPointer handles base name) := fun hs =>
          h.not_standsForPointer (fun he => hvoid ⟨hs.1, he⟩) h.cstring h.unknown hs.2
        exact TargetType.hasDepth_render hhandles rfl h.space (by simp [hnot])
      | some rest =>
        have hname := Text.after?_eq_some_iff.mp hafter
        have hspace : ' ' ∉ rest := fun hmem => h.space (hname ▸ List.mem_append_right _ hmem)
        have hnone : ¬ 0 < n := fun hn => hlibrary ⟨hn, rest, hname⟩
        exact TargetType.hasDepth_render hhandles rfl hspace (by simp [hnone])

end Depth

/-! ## Base types -/

/-- A C identifier. -/
structure IsIdentifier (t : Text) : Prop where
  /-- A letter or the underscore comes first. -/
  head : t.head?.any (!·.isDigit) = true
  /-- There are ASCII letters, digits and underscores. -/
  chars : ∀ c ∈ t, Text.isAsciiWord c = true

/-- Names with a meaning of their own in a C type or in the target language. -/
def reservedNames : List Text := ["const", "pointer", "cstring", "sfBool", "getLineSpacing"]

/-- The base type of a C type: an identifier or that of two words, other than a name with a meaning
of its own or a handle, and with a capital behind the library's beginning. -/
structure IsElement (handles : Handles) (base : Text) : Prop where
  spelled : base = Text.ofString "unsigned int" ∨ IsIdentifier base
  unreserved : base ∉ reservedNames
  unknown : base ∉ handles
  capital : ∀ rest, base = libraryLead ++ rest → IsCapital rest

section Elements

variable {handles : Handles} {base : Text}

theorem IsIdentifier.isWordy (h : IsIdentifier base) : Text.IsWordy base :=
  fun c hc => Text.isWord_of_isAsciiWord (h.chars c hc)

theorem IsIdentifier.ne_nil (h : IsIdentifier base) : base ≠ [] := by
  rintro rfl
  cases h.head

theorem IsElement.isBaseType (h : IsElement handles base) : IsBaseType base := by
  rcases h.spelled with rfl | hidentifier
  · exact ⟨by with_unfolding_all decide, by with_unfolding_all decide,
      by with_unfolding_all decide, by with_unfolding_all decide⟩
  · refine hidentifier.isWordy.isBaseType hidentifier.ne_nil fun he => h.unreserved ?_
    rw [he]
    exact List.mem_cons_self

/-- A name is used as it is, or it is that of an integer and is used in small letters. -/
theorem widthName_eq_or (t : Text) : widthName t = t ∨
    ∃ bare, t = libraryLead ++ bare ∧ IsWidthName t ∧ widthName t = Text.lower bare := by
  cases hafter : Text.after? libraryLead t with
  | none =>
    left
    rw [widthName, hafter]
  | some bare =>
    obtain rfl := Text.after?_eq_some_iff.mp hafter
    rw [widthName_eq]
    split
    · next hwidth => exact Or.inr ⟨bare, rfl, hwidth, rfl⟩
    · exact Or.inl rfl

/-- The name of an integer in small letters. -/
structure IsIntegerName (t : Text) : Prop where
  small : ∀ c ∈ t, Text.isAsciiWord c = true ∧ c.isUpper = false
  integer : Text.ofString "int" <:+: t

theorem isIntegerName_lower {bare : Text} (h : IsIdentifier (libraryLead ++ bare))
    (hwidth : IsWidthName (libraryLead ++ bare)) : IsIntegerName (Text.lower bare) := by
  have hchars : ∀ c ∈ bare, Text.isAsciiWord c = true := fun c hc =>
    h.chars c (List.mem_append_right _ hc)
  have hlower : Text.lower bare = bare.map Char.toLower :=
    Text.lower_eq_map_toLower fun c hc => Text.toNat_lt_of_isAsciiWord (hchars c hc)
  refine ⟨fun c hc => ⟨?_, Text.isUpper_eq_false_of_mem_lower hc⟩, ?_⟩
  · rw [hlower] at hc
    obtain ⟨d, hd, rfl⟩ := List.mem_map.mp hc
    exact Text.isAsciiWord_toLower (hchars d hd)
  · have hbare : ∀ {c : Char} {word : Text}, c :: word <:+: libraryLead ++ bare →
        c ∉ libraryLead → (c :: word).map Char.toLower <:+: Text.lower bare := by
      intro c word hoccurs hlead
      rw [hlower]
      exact ((Text.infix_append_iff_of_not_mem hlead).mp hoccurs).map Char.toLower
    have hinteger : Text.ofString "int" <:+: ('I' :: ['n', 't']).map Char.toLower ∧
        Text.ofString "int" <:+: ('U' :: ['i', 'n', 't']).map Char.toLower := by
      with_unfolding_all decide
    have hwords : Text.ofString "Int" = 'I' :: ['n', 't'] ∧
        Text.ofString "Uint" = 'U' :: ['i', 'n', 't'] := by
      with_unfolding_all decide
    rw [IsWidthName, hwords.1, hwords.2] at hwidth
    rcases hwidth.1 with hoccurs | hoccurs
    · exact hinteger.1.trans (hbare hoccurs (by with_unfolding_all decide))
    · exact hinteger.2.trans (hbare hoccurs (by with_unfolding_all decide))

/-- The fixed name for an integer is one. -/
theorem IsIntegerName.lookup_baseNames {t : Text} (h : IsIntegerName t) :
    IsIntegerName ((baseNames.lookup t).getD t) := by
  have htable : ∀ entry ∈ baseNames, Text.ofString "int" <:+: entry.1 →
      (∀ c ∈ entry.2, Text.isAsciiWord c = true ∧ c.isUpper = false) ∧
        Text.ofString "int" <:+: entry.2 := by
    with_unfolding_all decide
  cases hlookup : baseNames.lookup t with
  | none => exact h
  | some value =>
    obtain ⟨hsmall, hinteger⟩ := htable _ (mem_of_lookup hlookup) h.integer
    exact ⟨hsmall, hinteger⟩

theorem IsIntegerName.isElementName {name : Text} (h : IsIntegerName name)
    (hhandles : handles.AreCapital) (hbase : base ≠ Text.ofString "void") :
    IsElementName handles base name where
  space hmem := absurd (h.small _ hmem).1 (by decide)
  unknown hmem := by
    obtain ⟨c, rest, rfl, hupper⟩ := hhandles _ hmem
    obtain ⟨hascii, hsmall⟩ := h.small c List.mem_cons_self
    rw [Text.isUpper_of_lt (Text.toNat_lt_of_isAsciiWord hascii), hsmall] at hupper
    cases hupper
  cstring he := absurd (he ▸ h.integer) (by with_unfolding_all decide)
  unmarked he := absurd (he ▸ h.integer) (by with_unfolding_all decide)
  void := iff_of_false (fun he => absurd (he ▸ h.integer) (by with_unfolding_all decide)) hbase
  bare rest hname he := by
    have hinteger := h.integer
    rw [hname, he] at hinteger
    exact absurd hinteger (by with_unfolding_all decide)

/-- A fixed name goes well with any handles. -/
theorem isElementName_of_mem_baseNames (hhandles : handles.AreCapital) {entry : Text × Text}
    (hmem : entry ∈ baseNames) (hbool : entry.1 ≠ Text.ofString "sfBool") :
    IsElementName handles entry.1 entry.2 := by
  have htable : ∀ entry ∈ baseNames, entry.1 ≠ Text.ofString "sfBool" →
      ' ' ∉ entry.2 ∧ ¬ IsCapital entry.2 ∧ entry.2 ∉ reservedNames ∧
        entry.1 ≠ Text.ofString "void" ∧ entry.2 ≠ Text.ofString "void" ∧
          entry.2 ≠ libraryLead ++ Text.ofString "cstring" := by
    with_unfolding_all decide
  obtain ⟨hspace, hcapital, hreserved, hbase, hvoid, hbare⟩ := htable entry hmem hbool
  simp only [reservedNames, List.mem_cons, List.not_mem_nil, or_false, not_or] at hreserved
  exact {
    space := hspace
    unknown := fun h => hcapital (hhandles _ h)
    cstring := hreserved.2.2.1
    unmarked := hreserved.2.2.2.2
    void := iff_of_false hvoid hbase
    bare := fun rest hname he => hbare (he ▸ hname) }

/-- What a base type goes by is known well enough. -/
theorem IsElement.isElementName (h : IsElement handles base) (hhandles : handles.AreCapital) :
    IsElementName handles base (baseNameOf base) := by
  have hreserved := h.unreserved
  simp only [reservedNames, List.mem_cons, List.not_mem_nil, or_false, not_or] at hreserved
  obtain ⟨_, hpointer, hcstring, hbool, hunmarked⟩ := hreserved
  rcases h.spelled with rfl | hidentifier
  · have hname : baseNameOf (Text.ofString "unsigned int") = Text.ofString "cint" := by
      with_unfolding_all decide
    have hentry : (Text.ofString "unsigned int", Text.ofString "cint") ∈ baseNames := by
      with_unfolding_all decide
    rw [hname]
    exact isElementName_of_mem_baseNames hhandles hentry hbool
  · rcases widthName_eq_or base with hwidth | ⟨bare, rfl, hwidth, hlower⟩
    · have hname := baseNameOf_eq h.isBaseType (hwidth.symm ▸ hidentifier.isWordy)
      rw [hwidth] at hname
      rw [hname]
      cases hlookup : baseNames.lookup base with
      | some value =>
        exact isElementName_of_mem_baseNames hhandles (mem_of_lookup hlookup) hbool
      | none =>
        exact {
          space := hidentifier.isWordy.not_mem (by decide)
          unknown := h.unknown
          cstring := hcstring
          unmarked := hunmarked
          void := Iff.rfl
          bare := fun rest hbase he => absurd (h.capital rest hbase)
            (he ▸ by with_unfolding_all decide) }
    · have hinteger := isIntegerName_lower hidentifier hwidth
      have hname := baseNameOf_eq h.isBaseType (hlower.symm ▸ fun c hc =>
        Text.isWord_of_isAsciiWord (hinteger.small c hc).1)
      rw [hlower] at hname
      rw [hname]
      exact hinteger.lookup_baseNames.isElementName hhandles (libraryLead_append_ne_void bare)

/-- **A type is the same however it is spelled, and no pointer is lost.** Qualifiers and spaces
around the base type and the stars of a C type do not change what is written for it. The marks of
pointers and references are as many as the stars, but for the one that the name stands for, if there
is any star. -/
theorem typeName_keeps_depth (hhandles : handles.AreCapital) (h : IsElement handles base)
    (hint : Text) (s : Spacing) :
    typeName handles hint (s.spell base) =
        typeName handles hint (base ++ List.replicate s.stars.length '*') ∧
      HasDepth handles base s.stars.length (typeName handles hint (s.spell base)) := by
  have hstrict : spelledType false base s.stars.length none =
      base ++ List.replicate s.stars.length '*' := by
    simp [spelledType, sizeText]
  have hparts := CType.ofText_spelledType h.isBaseType false s.stars.length
    fun size hsize => absurd hsize (Option.not_mem_none size)
  rw [hstrict] at hparts
  rw [typeName, typeName, s.ofText_spell h.isBaseType, hparts]
  exact ⟨rfl, (h.isElementName hhandles).hasDepth hhandles hint s.stars.length⟩

/-- A qualifier with a space behind it. -/
theorem isFiller_qualifier_space : IsFiller (Text.ofString "const" ++ [' ']) :=
  .qualifier (.space .nil) fun _ hc => (Option.some.inj hc).symm

/-- Two stars with qualifiers on all sides. -/
def constantSpacing : Spacing where
  lead := Text.ofString "const" ++ [' ']
  behind := ' ' :: (Text.ofString "const" ++ [])
  stars := [Text.ofString "const" ++ [' '], []]
  lead_isFiller := isFiller_qualifier_space
  lead_apart c hc := by
    rw [List.getLast?_concat] at hc
    exact (Option.some.inj hc).symm
  behind_isFiller := .space (.qualifier .nil fun c hc => absurd hc (Option.not_mem_none c))
  behind_apart _ hc := (Option.some.inj hc).symm
  stars_isFiller := by
    intro t ht
    simp only [List.mem_cons, List.not_mem_nil, or_false] at ht
    rcases ht with rfl | rfl
    · exact isFiller_qualifier_space
    · exact .nil

/-- A pointer to a handle that is constant in every way is a pointer to that handle. -/
theorem typeName_keeps_depth_constantSpacing :
    constantSpacing.spell "sfWindow" = Text.ofString "const sfWindow const*const *" ∧
      HasDepth ["Window"] "sfWindow" 2 (typeName ["Window"] "window" "const sfWindow const*const *") ∧
      typeName ["Window"] "window" "const sfWindow const*const *" =
        Text.ofString "ptr Window" := by
  have helement : IsElement ["Window"] "sfWindow" := by
    refine ⟨Or.inr ⟨by with_unfolding_all decide, by with_unfolding_all decide⟩,
      by with_unfolding_all decide, by with_unfolding_all decide, fun rest hrest => ?_⟩
    have hsplit : Text.ofString "sfWindow" = libraryLead ++ Text.ofString "Window" := by
      with_unfolding_all decide
    rw [← List.append_cancel_left (hsplit.symm.trans hrest)]
    with_unfolding_all decide
  have hspell : constantSpacing.spell "sfWindow" =
      Text.ofString "const sfWindow const*const *" := by
    with_unfolding_all decide
  obtain ⟨htype, hdepth⟩ := typeName_keeps_depth (by with_unfolding_all decide) helement "window"
    constantSpacing
  rw [hspell] at htype hdepth
  refine ⟨hspell, hdepth, htype.trans ?_⟩
  with_unfolding_all decide

end Elements

end Bindery
