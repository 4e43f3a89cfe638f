import Bindery.Proofs.Fault
import Bindery.Proofs.Letter
import Bindery.Proofs.Meaning
import Bindery.Proofs.Replacing

/-!
# Declared and used type names

A type of the library is used under the name it is declared with, unless the name is taken for
that of an integer of fixed width. Such a name is used in small letters, whereas handles,
enumerations, callbacks and second names are declared without any regard to it.
-/

namespace Bindery

open Text (IsWordy)

/-! ## The type of a wordy name -/

theorem isWord_star : Text.isWord '*' = false := by decide

/-- A name that is taken for that of an integer of fixed width. -/
def IsWidthName (name : Text) : Prop :=
  (Text.ofString "Int" <:+: name ∨ Text.ofString "Uint" <:+: name) ∧
    ¬ Text.ofString "Rect" <:+: name

instance (name : Text) : Decidable (IsWidthName name) := inferInstanceAs (Decidable (_ ∧ ¬ _))

section Wordy

variable {name : Text}

/-- The word `const` is not recognised behind another word character. -/
theorem rewriteFrom_constRule (h : IsWordy name) {last : Char} (hlast : Text.isWord last = true) :
    Text.rewriteFrom constRule (some last) 0 name = name := by
  induction name generalizing last with
  | nil => rfl
  | cons c name ih =>
    have hrule : constRule (some last) c name = none := by simp [constRule, hlast]
    rw [Text.rewriteFrom, hrule]
    exact congrArg (c :: ·)
      (ih (fun d hd => h d (List.mem_cons_of_mem c hd)) (h c List.mem_cons_self))

/-- A name of the library by its first characters. -/
theorem libraryLead_append (name : Text) : libraryLead ++ name = 's' :: 'f' :: name := by
  rw [libraryLead, Text.ofString_eq]
  rfl

theorem libraryLead_append_ne {t : Text} (h : t.head? ≠ some 's') (name : Text) :
    libraryLead ++ name ≠ t := by
  rintro rfl
  rw [libraryLead_append, List.head?_cons] at h
  exact h rfl

/-- A wordy name of the library has no word in it to be left out. -/
theorem rewrite_constRule (h : IsWordy (libraryLead ++ name)) :
    Text.rewrite constRule (libraryLead ++ name) = libraryLead ++ name := by
  have hrule : constRule none 's' ('f' :: name) = none := by
    simp [constRule, Text.ofString_eq, Text.after?]
  rw [libraryLead_append] at h ⊢
  rw [Text.rewrite, Text.rewriteFrom, hrule]
  exact congrArg ('s' :: ·)
    (rewriteFrom_constRule (fun c hc => h c (List.mem_cons_of_mem _ hc)) (h _ List.mem_cons_self))

/-- A wordy name does not end with a size in brackets. -/
theorem takeSize?_eq_none (h : IsWordy name) : takeSize? name = none := by
  unfold takeSize?
  split
  · next rest hrest =>
    have hmem : ']' ∈ name := by
      rw [← List.mem_reverse, hrest]
      exact List.mem_cons_self
    exact absurd hmem (h.not_mem (by decide))
  · rfl

theorem isWidthName_iff : (Text.occurs "Int" name || Text.occurs "Uint" name) &&
    !Text.occurs "Rect" name ↔ IsWidthName name := by
  rw [Bool.and_eq_true, Bool.or_eq_true, Bool.not_eq_true', ← Bool.not_eq_true, Text.occurs_iff,
    Text.occurs_iff, Text.occurs_iff, IsWidthName]

/-- A name of the library that is taken for that of an integer loses its capitals. -/
theorem widthName_eq : widthName (libraryLead ++ name) =
    if IsWidthName (libraryLead ++ name) then Text.lower name else libraryLead ++ name := by
  rw [widthName, Text.after?_append]
  exact if_congr isWidthName_iff rfl rfl

/-- There are no stars at the end of a wordy name. -/
theorem Text.IsWordy.takeWhile_isPointerPart (h : IsWordy name) :
    name.reverse.takeWhile isPointerPart = [] := by
  have hpart : ∀ c ∈ name, isPointerPart c = false := by
    intro c hc
    rw [isPointerPart, Text.isBlank_eq_false_of_isWord (h c hc), Bool.or_false,
      beq_eq_false_iff_ne]
    exact fun hstar => h.not_mem isWord_star (hstar ▸ hc)
  rw [List.takeWhile_eq_nil_iff]
  intro hlength
  rw [List.get_eq_getElem, hpart _ (List.mem_reverse.mp (List.getElem_mem hlength))]
  exact Bool.false_ne_true

theorem Text.IsWordy.dropWhile_isPointerPart (h : IsWordy name) :
    name.reverse.dropWhile isPointerPart = name.reverse := by
  have hsplit := List.takeWhile_append_dropWhile (p := isPointerPart) (l := name.reverse)
  rwa [h.takeWhile_isPointerPart] at hsplit

/-- Without stars at its end a name is the base name of its type. -/
theorem CType.ofText_eq (h : IsWordy (libraryLead ++ name)) :
    CType.ofText (libraryLead ++ name) =
      let used := widthName (libraryLead ++ name)
      let stars := used.reverse.takeWhile isPointerPart
      let base := Text.trim (used.reverse.dropWhile isPointerPart).reverse
      ⟨(baseNames.lookup base).getD base, stars.count '*', none⟩ := by
  rw [CType.ofText, takeSize?_eq_none h]
  dsimp only
  rw [rewrite_constRule h, h.trim_eq]

/-- A name that is not taken for that of an integer is the base name of its type, unless it has a
fixed name in the target language. -/
theorem CType.ofText_of_not_isWidthName (h : IsWordy (libraryLead ++ name))
    (hwidth : ¬ IsWidthName (libraryLead ++ name))
    (hbase : baseNames.lookup (libraryLead ++ name) = none) :
    CType.ofText (libraryLead ++ name) = ⟨libraryLead ++ name, 0, none⟩ := by
  rw [CType.ofText_eq h, widthName_eq, if_neg hwidth]
  dsimp only
  rw [h.takeWhile_isPointerPart, h.dropWhile_isPointerPart, List.reverse_reverse, h.trim_eq, hbase]
  rfl

/-- The base name of a type without pointers or a size is used without the library's beginning. -/
theorem typeName_of_base {handles : Handles} {hint spelling base : Text}
    (h : CType.ofText spelling = ⟨base, 0, none⟩) : typeName handles hint spelling =
      let bare := (bareName? base).getD base
      if bare = Text.ofString "ptr char" then Text.ofString "cstring" else bare := by
  rw [typeName, h]
  rfl

end Wordy

/-! ## Small letters -/

/-- A text without capital ASCII letters. -/
def IsSmall (t : Text) : Prop := ∀ c ∈ t, c.isUpper = false

instance (t : Text) : Decidable (IsSmall t) := List.decidableBAll _ t

theorem IsSmall.of_subset {s t : Text} (h : IsSmall t) (hs : s ⊆ t) : IsSmall s :=
  fun c hc => h c (hs hc)

private theorem isSmall_libraryLead : IsSmall libraryLead := by with_unfolding_all decide

private theorem isSmall_of_mem_baseNames :
    ∀ entry ∈ baseNames, IsSmall entry.1 → IsSmall entry.2 := by
  with_unfolding_all decide

private theorem not_isSmall_of_mem_unmarkedNames :
    ∀ entry ∈ unmarkedNames, ¬ IsSmall entry.1 := by
  with_unfolding_all decide

/-- A fixed name for a name in small letters is in small letters. -/
theorem IsSmall.lookup_baseNames {base : Text} (h : IsSmall base) :
    IsSmall ((baseNames.lookup base).getD base) := by
  cases hlookup : baseNames.lookup base with
  | none => exact h
  | some value => exact isSmall_of_mem_baseNames _ (mem_of_lookup hlookup) h

/-- A name in small letters stays so without the library's beginning. -/
theorem IsSmall.bareName? {base : Text} (h : IsSmall base) :
    IsSmall ((bareName? base).getD base) := by
  unfold Bindery.bareName?
  cases hlookup : unmarkedNames.lookup base with
  | some value =>
    exact absurd h (not_isSmall_of_mem_unmarkedNames _ (mem_of_lookup hlookup))
  | none =>
    dsimp only
    cases hafter : Text.after? libraryLead base with
    | none => exact h
    | some bare =>
      refine h.of_subset ?_
      rw [Text.after?_eq_some_iff.mp hafter]
      exact List.subset_append_right libraryLead bare

/-- A name that is taken for that of an integer is used in small letters. -/
theorem isSmall_typeName {handles : Handles} {name : Text} (h : IsWordy (libraryLead ++ name))
    (hwidth : IsWidthName (libraryLead ++ name)) :
    IsSmall (typeName handles [] (libraryLead ++ name)) := by
  have hstar : '*' ∉ Text.lower name := by
    intro hmem
    have hname : '*' ∈ name := Text.mem_of_mem_lower hmem (by decide)
    exact h.not_mem isWord_star (List.mem_append_right libraryLead hname)
  obtain ⟨base, hbase, htype⟩ : ∃ base, IsSmall base ∧
      CType.ofText (libraryLead ++ name) = ⟨base, 0, none⟩ := by
    rw [CType.ofText_eq h, widthName_eq, if_pos hwidth]
    dsimp only
    rw [List.count_eq_zero_of_not_mem fun hmem =>
      hstar (List.mem_reverse.mp ((List.takeWhile_prefix _).subset hmem))]
    refine ⟨_, IsSmall.lookup_baseNames ?_, rfl⟩
    intro c hc
    have hlower : c ∈ Text.lower name := by
      have hdrop := List.mem_reverse.mp ((Text.trim_infix _).subset hc)
      exact List.mem_reverse.mp ((List.dropWhile_suffix _).subset hdrop)
    exact Text.isUpper_eq_false_of_mem_lower hlower
  rw [typeName_of_base htype]
  dsimp only
  split
  · with_unfolding_all decide
  · exact hbase.bareName?

/-- A name with an integer's name in it has a capital letter behind the library's beginning. -/
theorem not_isSmall_of_isWidthName {name : Text} (hwidth : IsWidthName (libraryLead ++ name)) :
    ¬ IsSmall name := by
  have hcapital : ∀ {word : Text}, word <:+: libraryLead ++ name → ¬ IsSmall word →
      ¬ IsSmall name := by
    intro word hword hnot hsmall
    refine hnot ?_
    intro c hc
    rcases List.mem_append.mp (hword.subset hc) with hlead | hname
    · exact isSmall_libraryLead c hlead
    · exact hsmall c hname
  rcases hwidth.1 with hword | hword
  · exact hcapital hword (by with_unfolding_all decide)
  · exact hcapital hword (by with_unfolding_all decide)

section Used

variable {handles : Handles} {name : Text}

theorem bareName?_libraryLead (name : Text) : bareName? (libraryLead ++ name) = some name := by
  have hlookup : unmarkedNames.lookup (libraryLead ++ name) = none := by
    simp [unmarkedNames, libraryLead, Text.ofString_eq]
  rw [bareName?, hlookup]
  exact Text.after?_append libraryLead name

/-- A name of the library that has no fixed name in the target language is used without the
library's beginning, exactly when it is not taken for that of an integer. -/
theorem typeName_eq_iff (h : IsWordy (libraryLead ++ name))
    (hbase : baseNames.lookup (libraryLead ++ name) = none) :
    typeName handles [] (libraryLead ++ name) = name ↔ ¬ IsWidthName (libraryLead ++ name) := by
  constructor
  · intro hname hwidth
    have hsmall : IsSmall (typeName handles [] (libraryLead ++ name)) := isSmall_typeName h hwidth
    rw [hname] at hsmall
    exact not_isSmall_of_isWidthName hwidth hsmall
  · intro hwidth
    have hspace : name ≠ Text.ofString "ptr char" := by
      rintro rfl
      exact h.not_mem (c := ' ') (by with_unfolding_all decide) (by with_unfolding_all decide)
    rw [typeName_of_base (CType.ofText_of_not_isWidthName h hwidth hbase)]
    dsimp only
    rw [bareName?_libraryLead, Option.getD_some, if_neg hspace]

end Used

/-! ## Declarations of a name -/

/-- The name under which the first of some blocks declares a type. -/
def declaredName? : List Text → Option Text
  | [] => none
  | block :: _ => (Text.after? "type " block).map (List.takeWhile (· != '*'))

/-- The declarations that declare a type with a name; a second name is given to types of the library
only. -/
inductive Declares (name : Text) : Declaration → Prop where
  /-- A handle. -/
  | handle : Declares name (.handle name)
  /-- An enumeration. -/
  | enumeration (items : List Enumerator) : Declares name (.enumeration (some name) (some items))
  /-- A callback. -/
  | callback {s : Signature} (hname : s.name = name) : Declares name (.callback s)
  /-- A second name. -/
  | alias {target : Text} (htarget : ¬ IsForeign target) : Declares name (.alias name target)
  /-- A structure. -/
  | struct {r : Record} (hname : r.name = name) (hfields : ¬ r.HasUnnamedField) :
    Declares name (.struct r)
  /-- A union. -/
  | union {r : Record} (hname : r.name = name) (hfields : ¬ r.HasUnnamedField) :
    Declares name (.union r)

/-- Where a run has got to, a type is declared under the name that its uses are written with, and it
is given further names under that name. -/
structure NamesAgree (corpus : Corpus) (g : Generation) (name : Text) : Prop where
  /-- Every declaration succeeds, and declares the name of the uses. -/
  declared : ∀ l, Declares name l.declaration → ∃ blocks,
    g.outcome corpus .object l = .ok blocks ∧
      declaredName? blocks = some (typeName g.context.handles [] name)
  /-- A further name is given to the name of the uses. -/
  targeted : ∀ l other bare, l.declaration = .alias other name → bareName? other = some bare →
    g.outcome corpus .object l =
      .ok ["type " ++ bare ++ "* = " ++ typeName g.context.handles [] name]

section Declared

variable {corpus : Corpus} {handles : Handles} {name : Text} {d : Declaration}

/-- A name is read back from the block that declares it. -/
theorem declaredName?_type (hstar : '*' ∉ name) {tail : Text} (htail : tail.head? = some '*')
    (blocks : List Text) :
    declaredName? ((Text.ofString "type " ++ (name ++ tail)) :: blocks) = some name := by
  obtain ⟨rest, rfl⟩ := List.head?_eq_some_iff.mp htail
  have hname : ∀ c ∈ name, (c != '*') = true := by
    intro c hc
    rw [bne_iff_ne]
    exact fun he => hstar (he ▸ hc)
  rw [declaredName?, Text.after?_append, Option.map_some, List.takeWhile_append_of_pos hname,
    List.takeWhile_cons_of_neg (by decide), List.append_nil]

theorem declaredName?_type_append (hstar : '*' ∉ name) {mark : Text} (hmark : mark.head? = some '*')
    (tail : Text) (blocks : List Text) :
    declaredName? ((Text.ofString "type " ++ (name ++ (mark ++ tail))) :: blocks) = some name := by
  apply declaredName?_type hstar
  rw [List.head?_append, hmark]
  rfl

theorem bareName_libraryLead (name : Text) : bareName (libraryLead ++ name) = .ok name := by
  rw [bareName, bareName?_libraryLead]

/-- A record without nameless fields becomes an object with the name of its uses. -/
theorem exists_bindObject (handles : Handles) (pragmas : Text) {r : Record}
    (h : ¬ r.HasUnnamedField) :
    ∃ fields, bindObject handles pragmas r = .ok (.object
      ("type " ++ typeName handles [] r.name ++ "* \x7b." ++ pragmas ++ ".\x7d = object") fields) := by
  cases hbind : bindObject handles pragmas r with
  | error fault => exact absurd (bindObject_eq_error_iff.mp hbind).1 h
  | ok b =>
    obtain ⟨fields, _, hb⟩ := exists_of_bind_eq_ok hbind
    cases hb
    exact ⟨fields, rfl⟩

/-- A handle is declared under its name without the library's beginning. -/
theorem exists_meaning_handle (hstar : '*' ∉ name) : ∃ meaning,
    Meaning.ofDeclaration corpus .object handles (.handle (libraryLead ++ name)) = .ok meaning ∧
      ∀ comment, declaredName? (meaning.blocks comment) = some name := by
  have hbind : bindHandle (libraryLead ++ name) =
      .ok (.object ("type " ++ name ++ "* = ptr object") []) := by
    rw [bindHandle, bareName_libraryLead]
    rfl
  have hmeaning : Meaning.ofDeclaration corpus .object handles (.handle (libraryLead ++ name)) =
      .ok (.handle name (.object ("type " ++ name ++ "* = ptr object") [])) := by
    rw [Meaning.ofDeclaration, hbind, bareName_libraryLead]
    rfl
  refine ⟨_, hmeaning, ?_⟩
  intro comment
  rw [List.append_assoc]
  exact declaredName?_type hstar (by with_unfolding_all decide) _

/-- An object is declared under the name in its head. -/
theorem declaredName?_object (hstar : '*' ∉ name) (pragmas : Text) (fields : List Text)
    (comment : Option Text) : declaredName? ((Binding.object
      ("type " ++ name ++ "* \x7b." ++ pragmas ++ ".\x7d = object") fields).blocks comment) =
        some name := by
  simp only [Binding.blocks, List.append_assoc, List.cons_append]
  exact declaredName?_type_append hstar (by with_unfolding_all decide) _ _

/-- A type whose uses are written without the library's beginning is declared like that by all
declarations. -/
theorem Declares.exists_meaning (h : Declares (libraryLead ++ name) d) (hstar : '*' ∉ name)
    (hshared : libraryLead ++ name ≠ sharedRecord)
    (hused : typeName handles [] (libraryLead ++ name) = name) : ∃ meaning,
    Meaning.ofDeclaration corpus .object handles d = .ok meaning ∧
      ∀ comment, declaredName? (meaning.blocks comment) = some name := by
  cases h with
  | handle => exact exists_meaning_handle hstar
  | enumeration items =>
    refine ⟨_, by rw [Meaning.ofDeclaration, bindEnumeration, bareName_libraryLead]; rfl, ?_⟩
    intro comment
    simp only [Meaning.blocks, Binding.blocks, List.append_assoc]
    exact declaredName?_type_append hstar (by with_unfolding_all decide) _ _
  | @callback s hname =>
    refine ⟨_, by rw [Meaning.ofDeclaration, bindCallback, hname, bareName_libraryLead]; rfl, ?_⟩
    intro comment
    simp only [Meaning.blocks, Binding.blocks, List.append_assoc]
    exact declaredName?_type_append hstar (by with_unfolding_all decide) _ _
  | @«alias» target htarget =>
    refine ⟨_, rfl, ?_⟩
    intro comment
    rw [← bareName?_eq_none_iff, ← ne_eq, Option.ne_none_iff_exists'] at htarget
    obtain ⟨bare, hbare⟩ := htarget
    simp only [bindAlias, bareName?_libraryLead, hbare, Meaning.blocks, Binding.blocks,
      List.append_assoc]
    exact declaredName?_type_append hstar (by with_unfolding_all decide) _ _
  | @struct r hname hfields =>
    obtain ⟨fields, hfields⟩ := exists_bindObject handles "bycopy" hfields
    refine ⟨_, by rw [Meaning.ofDeclaration, bindStruct, hname, if_neg hshared, hfields]; rfl, ?_⟩
    rw [hname, hused]
    exact declaredName?_object hstar _ fields
  | @union r hname hfields =>
    obtain ⟨fields, hfields⟩ := exists_bindObject handles "union, bycopy" hfields
    refine ⟨_, by rw [Meaning.ofDeclaration, bindUnion, hname, if_neg hshared, hfields]; rfl, ?_⟩
    rw [hname, hused]
    exact declaredName?_object hstar _ fields

end Declared

private theorem mem_baseNames_of_prefix : ∀ entry ∈ baseNames, libraryLead <+: entry.1 →
    entry.1 = Text.ofString "sfBool" ∨ entry.1 = sharedRecord := by
  with_unfolding_all decide

/-- Two names of the library stand for other types. -/
theorem lookup_baseNames {name : Text} (hbool : libraryLead ++ name ≠ Text.ofString "sfBool")
    (hshared : libraryLead ++ name ≠ sharedRecord) :
    baseNames.lookup (libraryLead ++ name) = none := by
  cases hlookup : baseNames.lookup (libraryLead ++ name) with
  | none => rfl
  | some base =>
    rcases mem_baseNames_of_prefix _ (mem_of_lookup hlookup) ⟨name, rfl⟩ with he | he
    · exact absurd he hbool
    · exact absurd he hshared

/-- Where a declaration means to declare a name, its outcome does. -/
theorem outcome_of_exists_meaning {corpus : Corpus} {g : Generation} {l : Located} {name : Text}
    (h : ∃ meaning,
      Meaning.ofDeclaration corpus .object g.context.handles l.declaration = .ok meaning ∧
        ∀ comment, declaredName? (meaning.blocks comment) = some name) :
    ∃ blocks, g.outcome corpus .object l = .ok blocks ∧ declaredName? blocks = some name := by
  obtain ⟨meaning, hmeaning, hname⟩ := h
  refine ⟨_, Generation.outcome_eq_ok_iff.mpr ⟨meaning, hmeaning, rfl⟩, ?_⟩
  rw [Context.fst_apply]
  exact hname _

/-- A wordy name of the library, other than the two that stand for other types, is declared under
the name of its uses and given further names under that name, exactly when it is not taken for
that of an integer of fixed width. -/
theorem namesAgree_iff (corpus : Corpus) (g : Generation) (name : Text)
    (h : IsWordy (libraryLead ++ name)) (hbool : libraryLead ++ name ≠ Text.ofString "sfBool")
    (hshared : libraryLead ++ name ≠ sharedRecord) :
    NamesAgree corpus g (libraryLead ++ name) ↔ ¬ IsWidthName (libraryLead ++ name) := by
  have hstar : '*' ∉ name := fun hmem =>
    h.not_mem isWord_star (List.mem_append_right libraryLead hmem)
  rw [← typeName_eq_iff h (lookup_baseNames hbool hshared)]
  constructor
  · intro hagree
    let l : Located := { declaration := .handle (libraryLead ++ name) }
    obtain ⟨blocks, hblocks, hused⟩ := hagree.declared l .handle
    obtain ⟨blocks', hblocks', hname⟩ :=
      outcome_of_exists_meaning (g := g) (l := l) (exists_meaning_handle hstar)
    rw [hblocks, Except.ok.injEq] at hblocks'
    rw [hblocks', hname] at hused
    exact (Option.some.inj hused).symm
  · intro hused
    constructor
    · intro l hl
      rw [hused]
      exact outcome_of_exists_meaning (hl.exists_meaning hstar hshared hused)
    · intro l other bare hl hbare
      have hmeaning : Meaning.ofDeclaration corpus .object g.context.handles l.declaration =
          .ok (.binding (.plain ["type " ++ bare ++ "* = " ++ name])) := by
        rw [hl, Meaning.ofDeclaration, bindAlias, hbare, bareName?_libraryLead]
        rfl
      rw [hused]
      exact Generation.outcome_eq_ok_iff.mpr ⟨_, hmeaning, rfl⟩

/-- A rectangle of integers is no integer: it is declared and used under one name. -/
theorem namesAgree_iff_intRect :
    IsWordy (libraryLead ++ Text.ofString "IntRect") ∧
      libraryLead ++ Text.ofString "IntRect" ≠ Text.ofString "sfBool" ∧
      libraryLead ++ Text.ofString "IntRect" ≠ sharedRecord ∧
      NamesAgree {} (Generation.start {}) (libraryLead ++ Text.ofString "IntRect") := by
  have h : IsWordy (libraryLead ++ Text.ofString "IntRect") := by with_unfolding_all decide
  have hbool : libraryLead ++ Text.ofString "IntRect" ≠ Text.ofString "sfBool" := by
    with_unfolding_all decide
  have hshared : libraryLead ++ Text.ofString "IntRect" ≠ sharedRecord := by
    with_unfolding_all decide
  have hwidth : ¬ IsWidthName (libraryLead ++ Text.ofString "IntRect") := by
    with_unfolding_all decide
  exact ⟨h, hbool, hshared, (namesAgree_iff {} (Generation.start {}) _ h hbool hshared).mpr hwidth⟩

/-- A further name for an integer of 32 bits is given to a name with a capital letter, which is not
the name that uses of the integer are written with. -/
theorem not_namesAgree_uint32 :
    IsWordy (libraryLead ++ Text.ofString "Uint32") ∧
      libraryLead ++ Text.ofString "Uint32" ≠ Text.ofString "sfBool" ∧
      libraryLead ++ Text.ofString "Uint32" ≠ sharedRecord ∧
      ¬ NamesAgree {} (Generation.start {}) (libraryLead ++ Text.ofString "Uint32") := by
  refine ⟨by with_unfolding_all decide, by with_unfolding_all decide,
    by with_unfolding_all decide, ?_⟩
  intro h
  have hblock := h.targeted { declaration := .alias "sfColorCode" "sfUint32" } "sfColorCode"
    "ColorCode" (by with_unfolding_all decide) (by with_unfolding_all decide)
  exact absurd hblock (by with_unfolding_all decide)

end Bindery
