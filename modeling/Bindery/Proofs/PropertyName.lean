import Bindery.Proofs.Adapter
import Bindery.Proofs.ParameterPassing

/-!
# Names of properties

A getter and a setter of one property are called by the same name, the setter as an assignment. The
name is found in many steps from two different C names, and the steps act on both alike: none of
them takes anything off a plain name of a type and a plain name of a property, but for the type
itself and the word that says which accessor it is.
-/

namespace Bindery

/-! ## Plain names -/

/-- A capital ASCII letter, then ASCII letters and digits, and no variant of a function. -/
structure IsPlainName (t : Text) : Prop where
  capital : t.head?.any Char.isUpper = true
  chars : ∀ c ∈ t, c.isAlphanum = true
  variant : ¬ Text.ofString "With" <:+: t

/-- A plain name of a type that has no rule of its own. -/
structure IsReceiverName (name : Text) : Prop extends IsPlainName name where
  bool : name ≠ Text.ofString "Bool"
  vector : name ≠ Text.ofString "Vector2u"
  width : ¬ IsWidthName (libraryLead ++ name)

/-- A plain name of a property whose ending tells nothing else. -/
structure IsPropertyStem (stem : Text) : Prop extends IsPlainName stem where
  window : ¬ ProcedureName.windowEnding <:+ stem
  parameter : ¬ Text.ofString "Parameter" <:+ stem

section Plain

variable {t : Text} {c : Char}

theorem IsPlainName.isAsciiWord (h : IsPlainName t) (hc : c ∈ t) : Text.isAsciiWord c = true := by
  rw [Text.isAsciiWord, h.chars c hc, Bool.true_or]

theorem IsPlainName.toNat_lt (h : IsPlainName t) (hc : c ∈ t) : c.toNat < 128 :=
  Text.toNat_lt_of_isAsciiWord (h.isAsciiWord hc)

theorem IsPlainName.not_mem (h : IsPlainName t) (hc : c.isAlphanum = false) : c ∉ t := by
  intro hmem
  rw [h.chars c hmem] at hc
  cases hc

theorem IsPlainName.isCapital (h : IsPlainName t) : IsCapital t := by
  cases t with
  | nil => cases h.capital
  | cons c rest =>
    refine ⟨c, rest, rfl, ?_⟩
    rw [Text.isUpper_of_lt (h.toNat_lt List.mem_cons_self)]
    exact h.capital

theorem IsReceiverName.isTypeStem (h : IsReceiverName t) : IsTypeStem t where
  capital := h.isCapital
  wordy c hc := Text.isWord_of_isAsciiWord (h.isAsciiWord hc)
  score := h.not_mem (by decide)
  bool := h.bool
  shared he := by
    have hsplit : sharedRecord = libraryLead ++ Text.ofString "Vector2u" := by
      with_unfolding_all decide
    exact h.vector (List.append_cancel_left (he.trans hsplit))
  width := h.width

end Plain

/-! ## Names without anything to be dropped -/

namespace ProcedureName

variable {word t : Text}

theorem beforeLast?_eq_none (h : ¬ word <:+: t) (ends : Text → Bool) :
    beforeLast? word ends t = none := by
  induction t with
  | nil => rfl
  | cons c t ih =>
    have hbehind : ¬ word <:+: t := fun hoccurs => h (List.infix_cons hoccurs)
    rw [beforeLast?, ih hbehind]
    cases hafter : Text.after? word t with
    | none => rfl
    | some rest =>
      rw [Text.after?_eq_some_iff.mp hafter] at hbehind
      exact absurd (List.prefix_append word rest).isInfix hbehind

theorem onLine_eq_self {f : Text → Option Text} (hline : '\n' ∉ t) (h : f t = none) :
    onLine f t = t := by
  rw [onLine, List.splitOn_eq_singleton hline, changeLine, h, changeLine, Text.unlines_singleton]

theorem before?_eq_none (h : ¬ word <:+ t) : Text.before? word t = none := by
  cases hbefore : Text.before? word t with
  | none => rfl
  | some rest => exact absurd ⟨rest, (Text.before?_eq_some_iff.mp hbefore).symm⟩ h

/-- A name on one line in which no step finds what it looks for only gets the ending for wide
characters. -/
theorem wholeName_eq (hline : '\n' ∉ t) (hcreate : ¬ Text.ofString "_create" <:+: t)
    (hfrom : ¬ Text.ofString "_from" <:+: t) (hwith : ¬ Text.ofString "With" <:+: t)
    (hwindow : ¬ windowEnding <:+ t) (hparameter : ¬ Text.ofString "Parameter" <:+ t)
    (cName : Text) : wholeName t cName = t ++ wideEnding cName := by
  have hconstructor : ofConstructor t = t :=
    onLine_eq_self hline (by rw [beforeLast?_eq_none hcreate]; rfl)
  have hvariant : ∀ word : Text, ¬ word <:+: t → dropVariant word t = t := fun word hword =>
    onLine_eq_self hline (beforeLast?_eq_none hword _)
  have hkept : dropWindow t = t := by rw [dropWindow, before?_eq_none hwindow]
  have hmerged : mergeParameterSetters t = t := by
    rw [mergeParameterSetters, before?_eq_none hparameter, ite_self]
  rw [wholeName, hconstructor, hvariant _ hfrom, hvariant _ hwith, hkept, hmerged]

end ProcedureName

/-! ## Accessors -/

/-- The words that say which accessor of a property a function is. -/
def accessWords : List Text := ["get", "set"]

/-- The name of an accessor without the library's beginning. -/
def accessorStem (word name stem : Text) : Text := name ++ '_' :: (word ++ stem)

/-- The C name of an accessor. -/
def accessorName (word name stem : Text) : Text := libraryLead ++ accessorStem word name stem

/-- Whether a C name speaks of wide characters, in capitals or small letters. -/
def MentionsWide (cName : Text) : Prop := Text.ofString "unicode" <:+: cName.map Char.toLower

instance (cName : Text) : Decidable (MentionsWide cName) :=
  inferInstanceAs (Decidable (_ <:+: _))

/-- A text in which the word for texts is short. -/
def abbreviated (t : Text) : Text := Text.replace "string" "str" (Text.replace "String" "Str" t)

/-- A name without the word for wide characters in front, if something follows that. -/
def withoutWide (name : Text) : Text :=
  match Text.after? "unicode" name with
  | some (c :: rest) => Text.lowerFirst (c :: rest)
  | _ => name

/-- The name of a property with accessors of given C names. -/
def propertyName (cName stem : Text) : Text :=
  withoutWide (Text.lowerFirst
    (abbreviated stem ++ if MentionsWide cName then Text.ofString "_U32" else []))

section Accessors

variable {word name stem : Text}

theorem eq_of_mem_accessWords (h : word ∈ accessWords) :
    word = ['g', 'e', 't'] ∨ word = ['s', 'e', 't'] := by
  rw [accessWords, List.mem_pair, Text.ofString_eq, Text.ofString_eq] at h
  exact h

theorem isAlphanum_of_mem_accessWords (h : word ∈ accessWords) :
    ∀ c ∈ word, c.isAlphanum = true ∧ c.isUpper = false := by
  rcases eq_of_mem_accessWords h with rfl | rfl
  · decide
  · decide

/-- The name of an accessor has letters, digits and one underscore. -/
theorem mem_accessorStem {c : Char} (hword : word ∈ accessWords) (hname : IsPlainName name)
    (hstem : IsPlainName stem) (hc : c ∈ accessorStem word name stem) :
    c.isAlphanum = true ∨ c = '_' := by
  rcases List.mem_append.mp hc with hc | hc
  · exact Or.inl (hname.chars c hc)
  · rcases List.mem_cons.mp hc with rfl | hc
    · exact Or.inr rfl
    · rcases List.mem_append.mp hc with hc | hc
      · exact Or.inl (isAlphanum_of_mem_accessWords hword c hc).1
      · exact Or.inl (hstem.chars c hc)

/-- A word with the underscore in front would begin at that of the name. -/
theorem not_infix_accessorStem {c : Char} {rest : Text} (hword : word ∈ accessWords)
    (hname : IsPlainName name) (hstem : IsPlainName stem) (hget : c ≠ 'g') (hset : c ≠ 's') :
    ¬ '_' :: c :: rest <:+: accessorStem word name stem := by
  have hscore : '_' ∉ word ++ stem := by
    intro hmem
    rcases List.mem_append.mp hmem with hmem | hmem
    · exact absurd (isAlphanum_of_mem_accessWords hword _ hmem).1 (by decide)
    · exact hstem.not_mem (by decide) hmem
  intro hoccurs
  rcases List.infix_cons_iff.mp
    ((Text.infix_append_iff_of_not_mem (hname.not_mem (by decide))).mp hoccurs) with
      hstart | hoccurs
  · have hbehind := (List.cons_prefix_cons.mp hstart).2
    rcases eq_of_mem_accessWords hword with rfl | rfl
    · exact hget (List.cons_prefix_cons.mp hbehind).1
    · exact hset (List.cons_prefix_cons.mp hbehind).1
  · exact hscore (hoccurs.subset List.mem_cons_self)

/-- An ending that begins with a capital is one of the property. -/
theorem suffix_of_suffix_accessorStem {c : Char} {rest : Text} (hword : word ∈ accessWords)
    (hscore : '_' ∉ c :: rest) (hc : c.isUpper = true)
    (hend : c :: rest <:+ accessorStem word name stem) : c :: rest <:+ stem := by
  refine Text.suffix_of_suffix_append (fun hmem => ?_)
    (Text.suffix_of_suffix_append_cons hscore hend)
  rw [(isAlphanum_of_mem_accessWords hword c hmem).2] at hc
  cases hc

/-- Of the steps on a whole name, only the last one changes the name of an accessor. -/
theorem wholeName_accessorStem (hword : word ∈ accessWords) (hname : IsPlainName name)
    (hstem : IsPropertyStem stem) (cName : Text) :
    ProcedureName.wholeName (accessorStem word name stem) cName =
      accessorStem word name stem ++ ProcedureName.wideEnding cName := by
  have hwords : Text.ofString "_create" = '_' :: 'c' :: "reate".toList ∧
      Text.ofString "_from" = '_' :: 'f' :: "rom".toList ∧
      Text.ofString "With" = 'W' :: "ith".toList ∧
      ProcedureName.windowEnding = 'R' :: "enderWindow".toList ∧
      Text.ofString "Parameter" = 'P' :: "arameter".toList := by
    with_unfolding_all decide
  obtain ⟨hcreate, hfrom, hwith, hwindow, hparameter⟩ := hwords
  have hnowindow := hstem.window
  have hnoparameter := hstem.parameter
  have hnovariant := hstem.variant
  rw [hwindow] at hnowindow
  rw [hparameter] at hnoparameter
  rw [hwith] at hnovariant
  refine ProcedureName.wholeName_eq (fun hmem => ?_) ?_ ?_ (fun hoccurs => ?_) ?_ ?_ cName
  · rcases mem_accessorStem hword hname hstem.toIsPlainName hmem with hc | hc
    · exact absurd hc (by decide)
    · exact absurd hc (by decide)
  · rw [hcreate]
    exact not_infix_accessorStem hword hname hstem.toIsPlainName (by decide) (by decide)
  · rw [hfrom]
    exact not_infix_accessorStem hword hname hstem.toIsPlainName (by decide) (by decide)
  · rcases (Text.infix_append_cons_iff (by with_unfolding_all decide)).mp hoccurs with
      hoccurs | hoccurs
    · exact hname.variant hoccurs
    · rw [hwith] at hoccurs
      refine hnovariant ((Text.infix_append_iff_of_not_mem fun hmem => ?_).mp hoccurs)
      exact absurd (isAlphanum_of_mem_accessWords hword _ hmem).2 (by decide)
  · rw [hwindow]
    exact mt (suffix_of_suffix_accessorStem hword (by decide) (by decide)) hnowindow
  · rw [hparameter]
    exact mt (suffix_of_suffix_accessorStem hword (by decide) (by decide)) hnoparameter

/-- The accessors of a property speak of wide characters alike. -/
theorem mentionsWide_accessorName_iff (hword : word ∈ accessWords) :
    MentionsWide (accessorName word name stem) ↔
      Text.ofString "unicode" <:+: (libraryLead ++ name).map Char.toLower ∨
        Text.ofString "unicode" <:+: stem.map Char.toLower := by
  have hmap : (accessorName word name stem).map Char.toLower =
      (libraryLead ++ name).map Char.toLower ++
        '_' :: (word.map Char.toLower ++ stem.map Char.toLower) := by
    simp [accessorName, accessorStem]
  have hbehind : ∀ t : Text, Text.ofString "unicode" <:+: word.map Char.toLower ++ t ↔
      Text.ofString "unicode" <:+: t := by
    intro t
    have hlong : ∀ c : Char, ¬ Text.ofString "unicode" <:+: [c, 'e'] := by
      intro c hoccurs
      have hlength : (Text.ofString "unicode").length = 7 := by with_unfolding_all decide
      have hle := hoccurs.length_le
      rw [hlength] at hle
      exact absurd hle (by simp)
    have hsplit : ∀ c : Char, Text.ofString "unicode" <:+: [c, 'e'] ++ 't' :: t ↔
        Text.ofString "unicode" <:+: t := by
      intro c
      rw [Text.infix_append_cons_iff (by with_unfolding_all decide), or_iff_right (hlong c)]
    rcases eq_of_mem_accessWords hword with rfl | rfl
    · exact hsplit 'g'
    · exact hsplit 's'
  rw [MentionsWide, hmap, Text.infix_append_cons_iff (by with_unfolding_all decide), hbehind]

theorem wideEnding_accessorName (hword : word ∈ accessWords) (hname : IsPlainName name)
    (hstem : IsPlainName stem) : ProcedureName.wideEnding (accessorName word name stem) =
      if MentionsWide (accessorName word name stem) then Text.ofString "_U32" else [] := by
  have hascii : ∀ c ∈ accessorName word name stem, c.toNat < 128 := by
    intro c hc
    refine Text.toNat_lt_of_isAsciiWord ?_
    rcases List.mem_append.mp hc with hc | hc
    · exact (by with_unfolding_all decide : ∀ c ∈ libraryLead, Text.isAsciiWord c = true) c hc
    · rcases mem_accessorStem hword hname hstem hc with hc | rfl
      · rw [Text.isAsciiWord, hc, Bool.true_or]
      · decide
  rw [ProcedureName.wideEnding, Text.lower_eq_map_toLower hascii]
  exact if_congr Text.occurs_iff rfl rfl

/-! ## The steps on an accessor -/

theorem abbreviated_append_wide (stem cName : Text) :
    abbreviated (stem ++ if MentionsWide cName then Text.ofString "_U32" else []) =
      abbreviated stem ++ if MentionsWide cName then Text.ofString "_U32" else [] := by
  have hreplace : ∀ old new t : Text, '_' ∉ old → old ≠ [] →
      Text.replace old new (Text.ofString "_U32") = Text.ofString "_U32" →
        Text.replace old new (t ++ Text.ofString "_U32") =
          Text.replace old new t ++ Text.ofString "_U32" := by
    intro old new t hscore hne hself
    rw [Text.replace_append_of_disjoint (fun c hc => ?_) hne, hself]
    rw [Text.ofString_eq] at hc
    rwa [← Option.some.inj hc]
  split
  · rw [abbreviated, abbreviated,
      hreplace _ _ stem (by with_unfolding_all decide) (by with_unfolding_all decide)
        (by with_unfolding_all decide),
      hreplace _ _ _ (by with_unfolding_all decide) (by with_unfolding_all decide)
        (by with_unfolding_all decide)]
  · rw [List.append_nil, List.append_nil]

/-- The word of an accessor is no part of what is abbreviated. -/
theorem abbreviated_accessWord (hword : word ∈ accessWords) (t : Text) :
    abbreviated (word ++ t) = word ++ abbreviated t := by
  have hstarts : ∀ old ∈ [Text.ofString "String", Text.ofString "string"], ∀ t : Text,
      Text.startsWith old ('g' :: t) = false ∧ Text.startsWith old ('e' :: t) = false ∧
        Text.startsWith old ('t' :: t) = false ∧ Text.startsWith old ('s' :: 'e' :: t) = false := by
    intro old hold t
    rcases List.mem_pair.mp hold with rfl | rfl
    · simp [Text.startsWith, Text.ofString_eq, Text.after?]
    · simp [Text.startsWith, Text.ofString_eq, Text.after?]
  have hreplace : ∀ old ∈ [Text.ofString "String", Text.ofString "string"], ∀ new t : Text,
      Text.replace old new (word ++ t) = word ++ Text.replace old new t := by
    intro old hold new t
    rcases eq_of_mem_accessWords hword with rfl | rfl
    · simp only [List.cons_append, List.nil_append]
      rw [Text.replace_cons (hstarts old hold _).1, Text.replace_cons (hstarts old hold _).2.1,
        Text.replace_cons (hstarts old hold _).2.2.1]
    · simp only [List.cons_append, List.nil_append]
      rw [Text.replace_cons (hstarts old hold _).2.2.2, Text.replace_cons (hstarts old hold _).2.1,
        Text.replace_cons (hstarts old hold _).2.2.1]
  rw [abbreviated, abbreviated, hreplace _ (by simp), hreplace _ (by simp)]

/-- The name of an accessor is the word for it and then what is left of the property. -/
theorem identifierName_accessWord (hword : word ∈ accessWords) (t : Text) :
    identifierName (word ++ t) = word ++ abbreviated t := by
  have hlookup : keywordNames.lookup (word ++ t) = none := by
    rcases eq_of_mem_accessWords hword with rfl | rfl
    · simp [keywordNames, Text.ofString_eq]
    · simp [keywordNames, Text.ofString_eq]
  have hsmall : ∀ t, Text.lowerFirst (word ++ t) = word ++ t := by
    rcases eq_of_mem_accessWords hword with rfl | rfl
    · exact fun _ => rfl
    · exact fun _ => rfl
  have hopen : identifierName (word ++ t) =
      Text.lowerFirst (abbreviated ((keywordNames.lookup (word ++ t)).getD (word ++ t))) := rfl
  rw [hopen, hlookup, Option.getD_none, abbreviated_accessWord hword, hsmall]

/-- The first letter is still the capital that it was. -/
theorem exists_abbreviated_eq_cons (hstem : IsPlainName stem) (t : Text) :
    ∃ c rest, abbreviated stem ++ t = c :: rest ∧ Text.isUpper c = true := by
  obtain ⟨c, rest, rfl, hupper⟩ := hstem.isCapital
  have hhead : (abbreviated (c :: rest)).head? = some c := by
    rw [abbreviated, Text.head?_replace (by with_unfolding_all decide)
      (by with_unfolding_all decide), Text.head?_replace (by with_unfolding_all decide)
      (by with_unfolding_all decide), List.head?_cons]
  obtain ⟨behind, hbehind⟩ := List.head?_eq_some_iff.mp hhead
  exact ⟨c, behind ++ t, by rw [hbehind, List.cons_append], hupper⟩

theorem property?_append {c : Char} (hupper : Text.isUpper c = true) (word rest : Text) :
    CallName.property? word (word ++ c :: rest) = some (Text.lowerFirst (c :: rest)) := by
  rw [CallName.property?, Text.after?_append]
  exact if_pos hupper

theorem dropWide_eq (call : CallName) :
    call.dropWide = { call with name := withoutWide call.name } := by
  unfold CallName.dropWide withoutWide
  generalize Text.after? (Text.ofString "unicode") call.name = behind
  rcases behind with _ | _ | _ <;> rfl

end Accessors

/-! ## Receivers -/

/-- How a header spells the type of what an accessor is called on. -/
def receiverTypes (name : Text) : List Text :=
  [libraryLead ++ name, pointerTo false name, pointerTo true name]

section Receivers

variable {handles : Handles} {name type : Text}

theorem IsReceiverName.exists_ofText (h : IsReceiverName name) (htype : type ∈ receiverTypes name) :
    ∃ n ≤ 1, CType.ofText type = ⟨libraryLead ++ name, n, none⟩ := by
  have hstem := h.isTypeStem
  simp only [receiverTypes, List.mem_cons, List.not_mem_nil, or_false] at htype
  rcases htype with rfl | rfl | rfl
  · exact ⟨0, Nat.zero_le 1,
      CType.ofText_of_not_isWidthName hstem.isWordy h.width hstem.lookup_baseNames⟩
  · exact ⟨1, Nat.le_refl 1, hstem.ofText_pointerTo false⟩
  · exact ⟨1, Nat.le_refl 1, hstem.ofText_pointerTo true⟩

theorem IsReceiverName.ne_void (h : IsReceiverName name) (htype : type ∈ receiverTypes name) :
    type ≠ Text.ofString "void" := by
  rintro rfl
  obtain ⟨n, _, htext⟩ := h.exists_ofText htype
  have hvoid : CType.ofText (Text.ofString "void") = ⟨Text.ofString "void", 0, none⟩ := by
    with_unfolding_all decide
  exact libraryLead_append_ne_void name (congrArg CType.base (htext.symm.trans hvoid))

/-- The type of what an accessor is called on is no C string. -/
theorem IsReceiverName.typeName_ne_cstring (h : IsReceiverName name)
    (htype : type ∈ receiverTypes name) (hint : Text) :
    typeName handles hint type ≠ Text.ofString "cstring" := by
  obtain ⟨n, _, htext⟩ := h.exists_ofText htype
  have hcapital : HasCapital (typeName handles hint type) := by
    refine TargetType.hasCapital_render ?_
    rw [TargetType.name_ofCType, htext, TargetType.ofVoid_libraryLead, bareName?_libraryLead]
    exact h.isCapital
  intro he
  rw [he] at hcapital
  exact absurd hcapital (by with_unfolding_all decide)

/-- The name of the type of what an accessor is called on is dropped. -/
theorem IsReceiverName.dropReceiver_eq (h : IsReceiverName name)
    (htype : type ∈ receiverTypes name) (hint : Option Text) (params : List Param) (t : Text) :
    ProcedureName.dropReceiver handles (⟨type, hint⟩ :: params) (name ++ '_' :: t) = t := by
  have hreceiver : dereference (typeName handles [] type) = name := by
    obtain ⟨n, hn, htext⟩ := h.exists_ofText htype
    have hvoid : ¬ (0 < n ∧ libraryLead ++ name = Text.ofString "void") := fun h =>
      libraryLead_append_ne_void name h.2
    have hlead : Text.startsWith libraryLead (libraryLead ++ name) = true :=
      Text.startsWith_iff.mpr ⟨name, rfl⟩
    rw [typeName, htext, ofCType_nil hvoid, bareName?_libraryLead, Option.getD_some]
    rcases Nat.le_one_iff_eq_zero_or_eq_one.mp hn with rfl | rfl
    · rw [if_neg fun h => Nat.lt_irrefl 0 h.1]
      exact dereference_render_single h.isCapital false
    · rw [if_pos ⟨Nat.one_pos, hlead⟩]
      exact dereference_render_single h.isCapital _
  have hsplit : name ++ '_' :: t = name ++ ['_'] ++ t := by
    rw [List.append_assoc, List.singleton_append]
  rw [ProcedureName.dropReceiver]
  dsimp only
  rw [hreceiver, hsplit, Text.after?_append, Option.getD_some]

end Receivers

/-! ## Getters and setters -/

/-- A getter of a property of a type, which is given as a header spells it. -/
def getter (name stem result : Text) (receiver : Param) : Signature :=
  { result := result, name := accessorName "get" name stem, params := [receiver] }

/-- A setter of a property. -/
def setter (name stem : Text) (receiver value : Param) : Signature :=
  { result := "void", name := accessorName "set" name stem, params := [receiver, value] }

/-- Whether a form declares a procedure that is called in some way. -/
def DeclaresAs (callee form : Text) : Prop :=
  ∃ star rest, (star = [] ∨ star = ['*']) ∧ form = "proc " ++ callee ++ star ++ '(' :: rest

/-- Whether a function becomes a procedure that is called in some way, in all its forms. -/
def IsCalledAs (handles : Handles) (s : Signature) (callee : Text) : Prop :=
  ∃ forms, bindFunction handles s = .ok (.procedure forms) ∧ forms ≠ [] ∧
    ∀ form ∈ forms, DeclaresAs callee form

section Properties

variable {handles : Handles} {name stem : Text}

/-- All forms of a procedure are called the same. -/
theorem isCalledAs_of_procedureOf {s : Signature} {p : ProcedureHead × List BoundParam}
    (h : procedureOf handles s = .ok p) : IsCalledAs handles s p.1.callee := by
  refine ⟨p.1.forms p.2, bindFunction_of_procedureOf h, ProcedureHead.forms_ne_nil,
    fun form hform => ?_⟩
  obtain ⟨chosenPlaces, _, rfl⟩ := ProcedureHead.mem_forms_iff.mp hform
  obtain ⟨rest, hrest⟩ := p.1.exists_form_eq_append p.2 chosenPlaces
  refine ⟨if p.1.exported then ['*'] else [], _, ?_, hrest.trans (List.append_assoc _ _ _)⟩
  cases p.1.exported
  · exact Or.inl rfl
  · exact Or.inr rfl

/-- An accessor is a method of its first parameter, called by the word for it and the property. -/
theorem methodName_accessorName {word type : Text} (hword : word ∈ accessWords)
    (hname : IsReceiverName name) (hstem : IsPropertyStem stem) (htype : type ∈ receiverTypes name)
    (hint : Option Text) (params : List Param) :
    methodName handles (accessorName word name stem) (⟨type, hint⟩ :: params) =
      .ok (word ++ (abbreviated stem ++
        if MentionsWide (accessorName word name stem) then Text.ofString "_U32" else [])) := by
  have hwhole : accessorStem word name stem ++
      ProcedureName.wideEnding (accessorName word name stem) =
        name ++ '_' :: (word ++ (stem ++
          if MentionsWide (accessorName word name stem) then Text.ofString "_U32" else [])) := by
    rw [wideEnding_accessorName hword hname.toIsPlainName hstem.toIsPlainName, accessorStem]
    simp only [List.append_assoc, List.cons_append]
  rw [methodName_eq, accessorName, bareName_libraryLead, ← accessorName]
  rw [Except.map, wholeName_accessorStem hword hname.toIsPlainName hstem, hwhole,
    hname.dropReceiver_eq htype, identifierName_accessWord hword, abbreviated_append_wide]

/-- No text is returned where no C string is. -/
theorem isCString_resultType_eq_false {type : Text}
    (h : typeName handles [] type ≠ Text.ofString "cstring") :
    isCString (resultType handles type) = false := by
  rw [isCString, beq_eq_false_iff_ne, resultType]
  intro he
  rcases @Text.infix_replace_or_eq referenceMark (Text.ofString "ptr ")
    (typeName handles [] type) with hoccurs | hsame
  · rw [he] at hoccurs
    exact absurd hoccurs (by with_unfolding_all decide)
  · exact h (hsame.symm.trans he)

/-- No text is taken where no parameter is a C string. -/
theorem takesText_eq_false {params : List Param}
    (h : ∀ p ∈ params, paramType handles p ≠ Text.ofString "cstring") :
    takesText handles params = false := by
  rw [takesText, List.any_eq_false]
  rintro ⟨p, k⟩ hp
  have hne : isCString (paramType handles p) = false :=
    beq_eq_false_iff_ne.mpr (h p (List.fst_mem_of_mem_zipIdx hp))
  dsimp only
  rw [hne, Bool.false_and]
  exact Bool.false_ne_true

/-- Where no text is returned or taken, a procedure is called by the name of its method. -/
theorem callee_procedureNamed {s : Signature} (method : Text)
    (hresult : isCString (resultType handles s.result) = false)
    (htakes : takesText handles (effectiveParams s.params) = false) :
    (procedureNamed handles s method).1.callee =
      let call := (CallName.ofMethod method (effectiveParams s.params).length).dropWide
      if call.setter then Text.ofString "`" ++ call.name ++ Text.ofString "=`" else call.name := by
  rw [ProcedureHead.callee, procedureNamed]
  dsimp only
  rw [hresult, htakes]
  rfl

/-- An accessor is called by the property, as far as it is one by its number of parameters. -/
theorem isCalledAs_accessor {s : Signature} {word type : Text} {hint : Option Text}
    {params : List Param} (isSetter : Bool) (hword : word ∈ accessWords)
    (hname : IsReceiverName name) (hstem : IsPropertyStem stem) (htype : type ∈ receiverTypes name)
    (hs : s.name = accessorName word name stem) (hparams : s.params = ⟨type, hint⟩ :: params)
    (hresult : typeName handles [] s.result ≠ Text.ofString "cstring")
    (hvalues : ∀ p ∈ params, paramType handles p ≠ Text.ofString "cstring")
    (hcall : ∀ c rest, Text.isUpper c = true →
      CallName.ofMethod (word ++ c :: rest) (params.length + 1) =
        ⟨Text.lowerFirst (c :: rest), isSetter⟩) :
    IsCalledAs handles s
      (if isSetter then Text.ofString "`" ++ propertyName s.name stem ++ Text.ofString "=`"
        else propertyName s.name stem) := by
  have heffective : effectiveParams s.params = ⟨type, hint⟩ :: params := by
    rw [hparams]
    exact @effectiveParams_of_ne_void _ 0 _ rfl (hname.ne_void htype)
  obtain ⟨c, rest, hproperty, hupper⟩ := exists_abbreviated_eq_cons hstem.toIsPlainName
    (if MentionsWide s.name then Text.ofString "_U32" else [])
  have hmethod : methodName handles s.name (effectiveParams s.params) =
      .ok (word ++ c :: rest) := by
    rw [heffective, hs, methodName_accessorName hword hname hstem htype, ← hs, hproperty]
  have hprocedure : procedureOf handles s = .ok (procedureNamed handles s (word ++ c :: rest)) := by
    rw [procedureOf_eq, hmethod]
    rfl
  have htakes : takesText handles (effectiveParams s.params) = false := by
    rw [heffective]
    refine takesText_eq_false fun p hp => ?_
    rcases List.mem_cons.mp hp with rfl | hp
    · exact hname.typeName_ne_cstring htype _
    · exact hvalues p hp
  have hcallee := callee_procedureNamed (word ++ c :: rest)
    (isCString_resultType_eq_false hresult) htakes
  rw [heffective, List.length_cons, hcall c rest hupper, dropWide_eq] at hcallee
  have hcalled := isCalledAs_of_procedureOf hprocedure
  rw [hcallee] at hcalled
  rw [propertyName, hproperty]
  exact hcalled

theorem ofMethod_getter {c : Char} (hupper : Text.isUpper c = true) (rest : Text) :
    CallName.ofMethod ("get" ++ c :: rest) 1 = ⟨Text.lowerFirst (c :: rest), false⟩ := by
  rw [CallName.ofMethod, if_pos rfl, property?_append hupper]
  rfl

theorem ofMethod_setter {c : Char} (hupper : Text.isUpper c = true) (rest : Text) :
    CallName.ofMethod ("set" ++ c :: rest) 2 = ⟨Text.lowerFirst (c :: rest), true⟩ := by
  rw [CallName.ofMethod, if_neg (by decide), if_pos rfl, property?_append hupper]

/-- **A getter and a setter of a property meet under one name.** The getter is called by the
property and the setter by an assignment to it, whichever handles are known and however the type is
spelled. The name of the property is the same for both, and is that of the C names without the type
and the word of the accessor: abbreviated, marked if the C names speak of wide characters, and with
a small letter in front, and without the word for wide characters in front. -/
theorem accessors_share_name (hname : IsReceiverName name) (hstem : IsPropertyStem stem)
    {handles' : Handles} {receiver receiver' value : Param} {result : Text}
    (hreceiver : receiver.type ∈ receiverTypes name)
    (hreceiver' : receiver'.type ∈ receiverTypes name)
    (hresult : typeName handles [] result ≠ Text.ofString "cstring")
    (hvalue : typeName handles' (value.name.getD []) value.type ≠ Text.ofString "cstring") :
    propertyName (setter name stem receiver' value).name stem =
        propertyName (getter name stem result receiver).name stem ∧
      IsCalledAs handles (getter name stem result receiver)
        (propertyName (getter name stem result receiver).name stem) ∧
      IsCalledAs handles' (setter name stem receiver' value)
        ("`" ++ propertyName (setter name stem receiver' value).name stem ++ "=`") := by
  have hget : Text.ofString "get" ∈ accessWords := List.mem_cons_self
  have hset : Text.ofString "set" ∈ accessWords := List.mem_cons_of_mem _ List.mem_cons_self
  have hvoid : typeName handles' [] (Text.ofString "void") ≠ Text.ofString "cstring" := by
    have htext : CType.ofText (Text.ofString "void") = ⟨Text.ofString "void", 0, none⟩ := by
      with_unfolding_all decide
    rw [typeName_of_base htext]
    with_unfolding_all decide
  refine ⟨?_, ?_, ?_⟩
  · have hwide : MentionsWide (setter name stem receiver' value).name ↔
        MentionsWide (getter name stem result receiver).name :=
      (mentionsWide_accessorName_iff hset).trans (mentionsWide_accessorName_iff hget).symm
    rw [propertyName, propertyName, if_congr hwide rfl rfl]
  · exact isCalledAs_accessor false hget hname hstem hreceiver rfl rfl hresult nofun
      fun c rest hupper => ofMethod_getter hupper rest
  · refine isCalledAs_accessor true hset hname hstem hreceiver' rfl rfl hvoid ?_
      fun c rest hupper => ofMethod_setter hupper rest
    intro p hp
    rw [List.mem_singleton.mp hp]
    exact hvalue

/-- The text of a text has two names, of which this is that for wide characters. -/
theorem accessors_share_name_unicodeString :
    IsCalledAs ["Text"]
        (getter "Text" "UnicodeString" "const sfUint32*" ⟨"const sfText*", some "text"⟩) "str_U32" ∧
      IsCalledAs []
        (setter "Text" "UnicodeString" ⟨"sfText*", some "text"⟩ ⟨"const sfUint32*", some "string"⟩)
        "`str_U32=`" := by
  have hname : IsReceiverName "Text" :=
    ⟨⟨by with_unfolding_all decide, by with_unfolding_all decide, by with_unfolding_all decide⟩,
      by with_unfolding_all decide, by with_unfolding_all decide, by with_unfolding_all decide⟩
  have hstem : IsPropertyStem "UnicodeString" :=
    ⟨⟨by with_unfolding_all decide, by with_unfolding_all decide, by with_unfolding_all decide⟩,
      by with_unfolding_all decide, by with_unfolding_all decide⟩
  have hproperty : propertyName (accessorName "get" "Text" "UnicodeString") "UnicodeString" =
      Text.ofString "str_U32" := by
    with_unfolding_all decide
  have hassigned : Text.ofString "`" ++ Text.ofString "str_U32" ++ Text.ofString "=`" =
      Text.ofString "`str_U32=`" := by
    with_unfolding_all decide
  obtain ⟨hsame, hgetter, hsetter⟩ := @accessors_share_name ["Text"] "Text" "UnicodeString" hname
    hstem [] ⟨"const sfText*", some "text"⟩ ⟨"sfText*", some "text"⟩
    ⟨"const sfUint32*", some "string"⟩ "const sfUint32*" (by with_unfolding_all decide)
    (by with_unfolding_all decide) (by with_unfolding_all decide) (by with_unfolding_all decide)
  rw [hsame] at hsetter
  rw [getter, hproperty] at hgetter hsetter
  rw [hassigned] at hsetter
  exact ⟨hgetter, hsetter⟩

end Properties

end Bindery
