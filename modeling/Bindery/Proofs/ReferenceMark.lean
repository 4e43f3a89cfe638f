import Bindery.Proofs.TargetDeclaration

/-!
# Where references are marked

A pointer to a type of the library that is no handle is written as a reference, and the mark of a
reference has a meaning only in front of the type of a parameter. The rules for types put it behind
further pointers and into arrays as well, and those for callbacks and fields leave it where it is.
Only what a procedure gives back is rid of it. When a declaration goes wrong by that can be said of
its C types alone.
-/

namespace Bindery

/-- The mark of a reference by its characters. -/
theorem referenceMark_eq : referenceMark = 'v' :: ['a', 'r', ' '] := by with_unfolding_all decide

/-- What is free of the mark begins without it. -/
theorem dereference_eq_self {type : Text} (h : ¬ referenceMark <:+: type) :
    dereference type = type := by
  unfold dereference
  cases hafter : Text.after? referenceMark type with
  | none => rfl
  | some rest =>
    rw [Text.after?_eq_some_iff.mp hafter] at h
    exact absurd (List.prefix_append _ _).isInfix h

/-! ## The mark in a type -/

namespace TargetType

variable {t : TargetType}

/-- An element in writing, characters among them. -/
def written (t : TargetType) : Text :=
  (List.replicate t.pointers (Text.ofString "ptr ")).flatten ++
    (if t.reference then referenceMark else []) ++ t.name

theorem renderElement_eq (t : TargetType) : t.renderElement =
    if t.written = Text.ofString "ptr char" then Text.ofString "cstring" else t.written := rfl

/-- The mark stands in an element exactly when that is a reference. -/
theorem infix_renderElement_iff (hname : ¬ referenceMark <:+: t.name) :
    referenceMark <:+: t.renderElement ↔ t.reference = true := by
  have hpointers : 'v' ∉ (List.replicate t.pointers (Text.ofString "ptr ")).flatten := by
    intro hmem
    obtain ⟨mark, hmark, hmem⟩ := List.mem_flatten.mp hmem
    rw [List.eq_of_mem_replicate hmark] at hmem
    exact absurd hmem (by with_unfolding_all decide)
  have hwritten : referenceMark <:+: t.written ↔ t.reference = true := by
    rw [written, List.append_assoc, referenceMark_eq, Text.infix_append_iff_of_not_mem hpointers,
      ← referenceMark_eq]
    cases t.reference with
    | false => simpa using hname
    | true => simp [(List.prefix_append referenceMark t.name).isInfix]
  rw [renderElement_eq]
  split
  · next hchar =>
    rw [← hwritten, hchar]
    with_unfolding_all decide
  · exact hwritten

/-- The mark stands in a type exactly when its element is a reference. -/
theorem infix_render_iff (hname : ¬ referenceMark <:+: t.name) (hsize : ∀ s ∈ t.size, 'v' ∉ s) :
    referenceMark <:+: t.render ↔ t.reference = true := by
  rw [← infix_renderElement_iff hname, render]
  split
  · next size hsome =>
    have hlead : 'v' ∉ Text.ofString "array[" ++ size ++ Text.ofString ", " := by
      simp only [List.mem_append, not_or]
      exact ⟨⟨by with_unfolding_all decide, hsize size hsome⟩, by with_unfolding_all decide⟩
    rw [Text.infix_concat_iff_of_not_mem (by with_unfolding_all decide), referenceMark_eq,
      Text.infix_append_iff_of_not_mem hlead]
  · rfl

/-- The mark is not in front of a pointer or an array. -/
theorem after?_render (h : 0 < t.pointers ∨ t.size ≠ none) :
    Text.after? referenceMark t.render = none := by
  rcases t with ⟨pointers, reference, name, size⟩
  cases size with
  | some size => simp [render, Text.ofString_eq, referenceMark_eq, Text.after?]
  | none =>
    obtain ⟨n, rfl⟩ := Nat.exists_eq_succ_of_ne_zero (Nat.ne_of_gt (h.resolve_right (by simp)))
    simp only [render, renderElement_eq]
    split
    · with_unfolding_all decide
    · simp [written, List.replicate_succ, Text.ofString_eq, referenceMark_eq, Text.after?]

/-- What stands behind the mark, or where there is none in front, has a mark in it exactly when a
reference is pointed to or is in an array. -/
theorem infix_dereference_render_iff (hname : ¬ referenceMark <:+: t.name)
    (hsize : ∀ s ∈ t.size, 'v' ∉ s) :
    referenceMark <:+: dereference t.render ↔
      t.reference = true ∧ (0 < t.pointers ∨ t.size ≠ none) := by
  by_cases hreference : t.reference = true
  · rw [and_iff_right hreference]
    by_cases hplain : 0 < t.pointers ∨ t.size ≠ none
    · rw [iff_true_right hplain, dereference, after?_render hplain]
      exact (infix_render_iff hname hsize).mpr hreference
    · simp only [not_or, Nat.not_lt, Nat.le_zero, not_not] at hplain
      have hwritten : t.written = referenceMark ++ t.name := by
        rw [written, hplain.1, hreference]
        rfl
      have hchar : referenceMark ++ t.name ≠ Text.ofString "ptr char" := by
        rw [referenceMark_eq, Text.ofString_eq]
        exact fun he => absurd (List.cons.inj he).1 (by decide)
      have hrender : t.render = referenceMark ++ t.name := by
        rw [render, hplain.2, renderElement_eq, hwritten]
        exact if_neg hchar
      rw [dereference, hrender, Text.after?_append, hplain.1, hplain.2]
      simpa using hname
  · have hmark : ¬ referenceMark <:+: t.render := fun h =>
      hreference ((infix_render_iff hname hsize).mp h)
    rw [dereference_eq_self hmark]
    exact iff_of_false hmark fun h => hreference h.1

end TargetType

/-! ## The mark by the C type -/

/-- Whether a C type, for something that goes by a name, makes a reference: it is a pointer to a
type of the library that is no handle, and the name is no plural. -/
def IsReferred (handles : Handles) (hint type : Text) : Prop :=
  0 < (CType.ofText type).pointers ∧
    Text.startsWith libraryLead (CType.ofText type).base = true ∧
    (bareName? (CType.ofText type).base).getD (CType.ofText type).base ∉ handles ∧
    isOtherPlural hint (CType.ofText type).base = false

/-- Whether a C type makes a reference that something else points to, or an array of such. -/
def HidesReference (handles : Handles) (hint type : Text) : Prop :=
  IsReferred handles hint type ∧
    (1 < (CType.ofText type).pointers ∨ (CType.ofText type).size ≠ none)

section Types

variable {handles : Handles} {hint type : Text}

instance : Decidable (IsReferred handles hint type) := inferInstanceAs (Decidable (_ ∧ _))

instance : Decidable (HidesReference handles hint type) := inferInstanceAs (Decidable (_ ∧ _))

/-- A type keeps its base name unless it points to nothing in particular. -/
theorem TargetType.ofVoid_eq_or (c : CType) : ofVoid c = c ∨
    c.base = Text.ofString "void" ∧ (ofVoid c).base = Text.ofString "pointer" := by
  unfold ofVoid
  split
  · next hvoid =>
    rw [Bool.and_eq_true, beq_iff_eq] at hvoid
    exact Or.inr ⟨hvoid.2, rfl⟩
  · exact Or.inl rfl

/-- The target type of a C type is a reference exactly when the C type makes one. -/
theorem reference_ofCType_iff :
    (TargetType.ofCType handles hint (CType.ofText type)).reference = true ↔
      IsReferred handles hint type := by
  unfold IsReferred TargetType.ofCType
  generalize CType.ofText type = c
  rcases TargetType.ofVoid_eq_or c with hvoid | ⟨hbase, hvoid⟩
  · rw [hvoid]
    dsimp only
    split
    · next hlibrary =>
      rw [Bool.and_eq_true, decide_eq_true_eq] at hlibrary
      rw [and_iff_right hlibrary.1, and_iff_right hlibrary.2]
      split
      · next hmem => simp [List.contains_iff_mem.mp hmem]
      · next hmem =>
        rw [List.contains_iff_mem] at hmem
        rw [and_iff_right hmem]
        split
        · next hplural => simp [hplural]
        · next hplural => simpa using hplural
    · next hlibrary =>
      rw [Bool.and_eq_true, decide_eq_true_eq] at hlibrary
      simp only [Bool.false_eq_true, false_iff]
      exact fun h => hlibrary ⟨h.1, h.2.1⟩
  · have hpointer : Text.startsWith libraryLead (Text.ofString "pointer") = false := by
      with_unfolding_all decide
    have hnone : Text.startsWith libraryLead (Text.ofString "void") = false := by
      with_unfolding_all decide
    dsimp only
    rw [hvoid, hbase, hpointer, hnone]
    simp

/-- A reference takes the place of one pointer. -/
theorem pointers_ofCType_of_isReferred (h : IsReferred handles hint type) :
    (TargetType.ofCType handles hint (CType.ofText type)).pointers =
      (CType.ofText type).pointers - 1 := by
  obtain ⟨hpos, hlead, hmem, hplural⟩ := h
  have hvoid : TargetType.ofVoid (CType.ofText type) = CType.ofText type := by
    refine (TargetType.ofVoid_eq_or _).resolve_right ?_
    rintro ⟨hbase, _⟩
    rw [hbase] at hlead
    exact absurd hlead (by with_unfolding_all decide)
  rw [TargetType.ofCType, hvoid, hlead, hplural, decide_eq_true hpos, if_pos (Bool.and_self true),
    if_neg fun h => hmem (List.contains_iff_mem.mp h), if_neg Bool.false_ne_true]

/-- The mark does not come into a name. -/
theorem not_infix_name_ofCType (h : ¬ referenceMark <:+: (CType.ofText type).base) :
    ¬ referenceMark <:+: (TargetType.ofCType handles hint (CType.ofText type)).name := by
  have hbase : ¬ referenceMark <:+: (TargetType.ofVoid (CType.ofText type)).base := by
    rcases TargetType.ofVoid_eq_or (CType.ofText type) with hvoid | ⟨_, hvoid⟩
    · rwa [hvoid]
    · rw [hvoid]
      with_unfolding_all decide
  rw [TargetType.name_ofCType]
  generalize (TargetType.ofVoid (CType.ofText type)).base = base at hbase ⊢
  have hnames : ∀ entry ∈ unmarkedNames, ¬ referenceMark <:+: entry.2 := by
    with_unfolding_all decide
  cases hbare : bareName? base with
  | none => exact hbase
  | some bare =>
    unfold bareName? at hbare
    split at hbare
    · next known hknown =>
      cases hbare
      exact hnames _ (mem_of_lookup hknown)
    · rw [Text.after?_eq_some_iff.mp hbare] at hbase
      exact fun hoccurs => hbase (hoccurs.trans (List.suffix_append _ _).isInfix)

/-- The size of an array is spelled with digits, stars and blanks. -/
theorem isSizePart_of_mem_size {size : Text} (h : (CType.ofText type).size = some size) :
    ∀ c ∈ size, isSizePart c = true := by
  have htake : ∃ inner, takeSize? type = some (inner, size) := by
    unfold CType.ofText at h
    cases hsize : takeSize? type with
    | none =>
      rw [hsize] at h
      cases h
    | some cut =>
      rw [hsize] at h
      cases h
      exact ⟨cut.1, rfl⟩
  obtain ⟨inner, htake⟩ := htake
  unfold takeSize? at htake
  split at htake
  · split at htake
    · dsimp only at htake
      split at htake
      · cases htake
      · cases htake
        intro c hc
        exact List.mem_takeWhile_imp (List.mem_reverse.mp ((Text.trim_infix _).subset hc))
    · cases htake
  · cases htake

/-- The mark stands in a type exactly when the C type makes a reference. -/
theorem infix_typeName_iff (h : ¬ referenceMark <:+: (CType.ofText type).base) :
    referenceMark <:+: typeName handles hint type ↔ IsReferred handles hint type := by
  rw [typeName, TargetType.infix_render_iff (not_infix_name_ofCType h) ?_, reference_ofCType_iff]
  intro size hsize hmem
  rw [TargetType.size_ofCType] at hsize
  exact absurd (isSizePart_of_mem_size hsize _ hmem) (by decide)

/-- The mark stands in a type other than in front of it exactly when the C type hides a
reference. -/
theorem infix_dereference_typeName_iff (h : ¬ referenceMark <:+: (CType.ofText type).base) :
    referenceMark <:+: dereference (typeName handles hint type) ↔
      HidesReference handles hint type := by
  rw [typeName, TargetType.infix_dereference_render_iff (not_infix_name_ofCType h) ?_,
    reference_ofCType_iff, TargetType.size_ofCType, HidesReference]
  · refine and_congr_right fun hreferred => ?_
    rw [pointers_ofCType_of_isReferred hreferred, Nat.sub_pos_iff_lt]
  · intro size hsize hmem
    rw [TargetType.size_ofCType] at hsize
    exact absurd (isSizePart_of_mem_size hsize _ hmem) (by decide)

/-- The types that are known by their place only, and the names they have there. -/
def placeTypes : List Text :=
  [Text.ofString "ptr uint32", wordType, wideTextType, flagsType, runeType]

theorem not_infix_of_mem_placeTypes :
    ∀ type ∈ placeTypes, ¬ referenceMark <:+: type ∧ ¬ referenceMark <:+: dereference type := by
  with_unfolding_all decide

theorem typeInPlace_eq_or (cName name type : Text) : typeInPlace cName name type = type ∨
    typeInPlace cName name type ∈ placeTypes ∧ type ∈ placeTypes := by
  unfold typeInPlace
  split
  · next hwide =>
    rw [eq_of_beq hwide]
    exact Or.inr (by with_unfolding_all decide)
  split
  · next hword =>
    subst hword
    split
    · exact Or.inr (by with_unfolding_all decide)
    split
    · exact Or.inr (by with_unfolding_all decide)
    · exact Or.inl rfl
  · exact Or.inl rfl

theorem fieldType_eq_or (name type : Text) :
    fieldType handles name type = typeName handles [] type ∨
      fieldType handles name type ∈ placeTypes ∧ typeName handles [] type ∈ placeTypes := by
  unfold fieldType
  dsimp only
  split
  · next hword =>
    rw [hword]
    split
    · exact Or.inr (by with_unfolding_all decide)
    split
    · exact Or.inr (by with_unfolding_all decide)
    · exact Or.inl rfl
  · exact Or.inl rfl

end Types

/-! ## Marks in declarations -/

/-- The mark of a reference stands in a declaration only in front of the types of parameters. -/
def TargetDeclaration.MarksParameters : TargetDeclaration → Prop
  | procedure head params => (∀ type ∈ head.result, ¬ referenceMark <:+: type) ∧
      ∀ p ∈ params, ¬ referenceMark <:+: dereference p.type
  | callback _ params result => ¬ referenceMark <:+: result ∧
      ∀ p ∈ params, ¬ referenceMark <:+: dereference p.type
  | object name _ fields => ¬ referenceMark <:+: name ∧ ∀ p ∈ fields, ¬ referenceMark <:+: p.type

namespace Declaration

/-- The C types in a function, a callback or a record, of which its name is one. -/
def types : Declaration → List Text
  | function s | callback s => s.result :: s.params.map (·.type)
  | struct r | union r => r.name :: r.fields.map (·.type)
  | _ => []

/-- Whether a reference is made where none can be marked: by the result of a callback, by a record
or one of its fields, or behind a pointer or in an array for a parameter. Of these, only those of
functions go by their names. -/
def MisplacesReference (handles : Handles) : Declaration → Prop
  | function s => ∃ p ∈ s.params, HidesReference handles (p.name.getD []) p.type
  | callback s => IsReferred handles [] s.result ∨
      ∃ p ∈ s.params, HidesReference handles [] p.type
  | struct r | union r => IsReferred handles [] r.name ∨
      ∃ p ∈ r.keptFields, IsReferred handles [] p.type
  | _ => False

end Declaration

section Declarations

variable {handles : Handles} {mode : UnionMode}

/-- A result is never marked. -/
theorem not_infix_resultType (type : Text) : ¬ referenceMark <:+: resultType handles type := by
  have hlead : referenceMark.head? = some 'v' := congrArg List.head? referenceMark_eq
  have hnew : (Text.ofString "ptr ").head? = some 'p' := by with_unfolding_all decide
  exact Text.not_infix_replace hlead (by with_unfolding_all decide) hnew
    (by with_unfolding_all decide)

theorem not_infix_typeInPlace {type : Text} (h : ¬ referenceMark <:+: type) (cName name : Text) :
    ¬ referenceMark <:+: typeInPlace cName name type := by
  rcases typeInPlace_eq_or cName name type with he | ⟨hplace, _⟩
  · rwa [he]
  · exact (not_infix_of_mem_placeTypes _ hplace).1

theorem infix_dereference_typeInPlace_iff (cName name : Text) {type : Text} :
    referenceMark <:+: dereference (typeInPlace cName name type) ↔
      referenceMark <:+: dereference type := by
  rcases typeInPlace_eq_or cName name type with he | ⟨hplace, htype⟩
  · rw [he]
  · exact iff_of_false (not_infix_of_mem_placeTypes _ hplace).2
      (not_infix_of_mem_placeTypes _ htype).2

theorem infix_fieldType_iff {name type : Text} :
    referenceMark <:+: fieldType handles name type ↔
      referenceMark <:+: typeName handles [] type := by
  rcases @fieldType_eq_or handles name type with he | ⟨hplace, htype⟩
  · rw [he]
  · exact iff_of_false (not_infix_of_mem_placeTypes _ hplace).1
      (not_infix_of_mem_placeTypes _ htype).1

/-- A procedure marks only parameters exactly when no C type of one hides a reference. -/
theorem marksParameters_procedure_iff {s : Signature} {p : ProcedureHead × List BoundParam}
    (hp : procedureOf handles s = .ok p)
    (hclear : ∀ q ∈ s.params, ¬ referenceMark <:+: (CType.ofText q.type).base) :
    (TargetDeclaration.procedure p.1 p.2).MarksParameters ↔
      ∀ q ∈ s.params, ¬ HidesReference handles (q.name.getD []) q.type := by
  obtain ⟨method, _, rfl⟩ := exists_procedureNamed hp
  have hresult : ∀ type ∈ (procedureNamed handles s method).1.result,
      ¬ referenceMark <:+: type := by
    intro type htype
    unfold procedureNamed at htype
    dsimp only at htype
    split at htype
    · cases htype
    · cases htype
      exact not_infix_typeInPlace (not_infix_resultType s.result) _ _
  have hparam : ∀ k, ∀ q ∈ s.params, ¬ referenceMark <:+: dereference
      (bindParam handles s.name k q).type ↔ ¬ HidesReference handles (q.name.getD []) q.type := by
    intro k q hq
    rw [bindParam, paramType]
    dsimp only
    rw [infix_dereference_typeInPlace_iff, infix_dereference_typeName_iff (hclear q hq)]
  refine (and_iff_right hresult).trans ⟨fun h q hq => ?_, fun h b hb => ?_⟩
  · rcases mem_effectiveParams_or hq with heffective | rfl
    · obtain ⟨k, hk⟩ := List.mem_iff_getElem?.mp heffective
      exact (hparam k q hq).mp (h _ (mem_procedureNamed.mpr ⟨k, q, hk, rfl⟩))
    · exact fun hhidden => absurd hhidden.1.2.1 (by with_unfolding_all decide)
  · obtain ⟨k, q, hk, rfl⟩ := mem_procedureNamed.mp hb
    have hq := effectiveParams_subset s.params (List.mem_of_getElem? hk)
    exact (hparam k q hq).mpr (h q hq)

/-- A callback marks only parameters exactly when it gives back no reference and no C type of a
parameter hides one. -/
theorem marksParameters_callback_iff {s : Signature} (name : Text)
    (hresult : ¬ referenceMark <:+: (CType.ofText s.result).base)
    (hclear : ∀ q ∈ s.params, ¬ referenceMark <:+: (CType.ofText q.type).base) :
    (TargetDeclaration.callback name
        (s.params.zipIdx.map fun p => callbackPart handles p.2 p.1)
        (typeName handles [] s.result)).MarksParameters ↔
      ¬ IsReferred handles [] s.result ∧ ∀ q ∈ s.params, ¬ HidesReference handles [] q.type := by
  refine and_congr (not_congr (infix_typeName_iff hresult)) ⟨fun h q hq => ?_, fun h b hb => ?_⟩
  · obtain ⟨k, hk⟩ := List.mem_iff_getElem?.mp hq
    have hpart := h _ (mem_callbackParts.mpr ⟨k, q, hk, rfl⟩)
    exact fun hhidden => hpart ((infix_dereference_typeName_iff (hclear q hq)).mpr hhidden)
  · obtain ⟨k, q, hk, rfl⟩ := mem_callbackParts.mp hb
    have hq := List.mem_of_getElem? hk
    exact fun hoccurs => h q hq ((infix_dereference_typeName_iff (hclear q hq)).mp hoccurs)

/-- An object has no marks exactly when neither its name nor a field makes a reference. -/
theorem marksParameters_object_iff {r : Record} (pragmas : Text)
    (hnamed : ∀ q ∈ r.keptFields, q.name ≠ none)
    (hname : ¬ referenceMark <:+: (CType.ofText r.name).base)
    (hclear : ∀ q ∈ r.fields, ¬ referenceMark <:+: (CType.ofText q.type).base) :
    (r.target handles pragmas).MarksParameters ↔
      ¬ IsReferred handles [] r.name ∧ ∀ q ∈ r.keptFields, ¬ IsReferred handles [] q.type := by
  have hfield : ∀ q ∈ r.keptFields, ∀ name, referenceMark <:+: fieldType handles name q.type ↔
      IsReferred handles [] q.type := by
    intro q hq name
    rw [infix_fieldType_iff, infix_typeName_iff (hclear q (List.mem_of_mem_filter hq))]
  refine and_congr (not_congr (infix_typeName_iff hname)) ⟨fun h q hq => ?_, fun h b hb => ?_⟩
  · obtain ⟨name, hsome⟩ := Option.ne_none_iff_exists'.mp (hnamed q hq)
    have hpart := h _ (mem_fieldParts.mpr ⟨q, hq, name, hsome, rfl⟩)
    exact fun hreferred => hpart ((hfield q hq name).mpr hreferred)
  · obtain ⟨q, hq, name, _, rfl⟩ := mem_fieldParts.mp hb
    exact fun hoccurs => h q hq ((hfield q hq name).mp hoccurs)

/-- **The mark of a reference stands only in front of the types of parameters**, whatever handles
are known, exactly when no C type of the declaration makes a reference in another place: by the
result of a callback, by a field, or behind a pointer or in an array. What a procedure gives back is
never marked. -/
theorem marksParameters_iff {corpus : Corpus} {d : Declaration} {meaning : Meaning}
    (hmeaning : Meaning.ofDeclaration corpus mode handles d = .ok meaning)
    (htyped : d.IsTyped mode)
    (hclear : ∀ type ∈ d.types, ¬ referenceMark <:+: (CType.ofText type).base) :
    ∃ t, d.target? handles mode = some t ∧ meaning = .binding t.binding ∧
      (t.MarksParameters ↔ ¬ d.MisplacesReference handles) := by
  obtain ⟨t, ht, hbinding⟩ := exists_target hmeaning htyped
  refine ⟨t, ht, hbinding, ?_⟩
  have hrecord : ∀ {r : Record} (pragmas : Text), d = .struct r ∨ d = .union r →
      ((r.target handles pragmas).MarksParameters ↔
        ¬ (IsReferred handles [] r.name ∨ ∃ p ∈ r.keptFields, IsReferred handles [] p.type)) := by
    intro r pragmas hd
    have htypes : d.types = r.name :: r.fields.map (·.type) := by
      rcases hd with rfl | rfl <;> rfl
    rw [htypes, List.forall_mem_cons, List.forall_mem_map] at hclear
    rw [marksParameters_object_iff pragmas (name_ne_none_of_ofDeclaration hmeaning htyped hd)
      hclear.1 hclear.2]
    simp only [not_or, not_exists, not_and]
  cases d with
  | function s =>
    rw [Declaration.types, List.forall_mem_cons, List.forall_mem_map] at hclear
    obtain ⟨p, hp, rfl⟩ := target?_function_eq_some_iff.mp ht
    rw [marksParameters_procedure_iff hp hclear.2]
    simp only [Declaration.MisplacesReference, not_exists, not_and]
  | callback s =>
    rw [Declaration.types, List.forall_mem_cons, List.forall_mem_map] at hclear
    obtain ⟨name, _, rfl⟩ := Option.map_eq_some_iff.mp ht
    rw [marksParameters_callback_iff name hclear.1 hclear.2]
    simp only [Declaration.MisplacesReference, not_or, not_exists, not_and]
  | struct r =>
    rw [Declaration.target?, if_neg htyped] at ht
    cases ht
    exact hrecord _ (Or.inl rfl)
  | union r =>
    obtain ⟨rfl, hname⟩ := htyped
    rw [Declaration.target?, if_neg (by simp [hname])] at ht
    cases ht
    exact hrecord _ (Or.inr rfl)
  | «alias» name target => exact htyped.elim
  | enumeration name items => exact htyped.elim
  | handle name => exact htyped.elim

/-- A procedure that gives back a reference and takes two, of which one is constant. -/
def viewMapper : Declaration :=
  .function
    { result := "sfView*"
      name := "sfWindow_mapView"
      params := [⟨"sfWindow*", some "window"⟩, ⟨"const sfView*", some "view"⟩] }

/-- Its result is a pointer, and only its parameters are marked. -/
theorem marksParameters_viewMapper :
    (∀ type ∈ viewMapper.types, ¬ referenceMark <:+: (CType.ofText type).base) ∧
      ∃ t, viewMapper.target? [] .object = some t ∧ t.MarksParameters := by
  have hclear : ∀ type ∈ viewMapper.types, ¬ referenceMark <:+: (CType.ofText type).base := by
    with_unfolding_all decide
  have hfault : viewMapper.fault? 0 .object = none := by with_unfolding_all decide
  obtain ⟨meaning, hmeaning⟩ :=
    @Declaration.exists_ofDeclaration {} .object viewMapper hfault []
  obtain ⟨t, ht, _, hmarks⟩ := marksParameters_iff hmeaning trivial hclear
  refine ⟨hclear, t, ht, hmarks.mpr ?_⟩
  rintro ⟨p, hp, hhidden⟩
  revert p
  with_unfolding_all decide

/-- A field that points to something of the library. -/
def linkRecord : Declaration := .struct ⟨"sfLink", [⟨"sfNode*", some "node"⟩]⟩

/-- A callback that gives back a pointer to something of the library. -/
def linkCallback : Declaration := .callback ⟨"sfNode*", "sfLinkCallback", []⟩

/-- A parameter that points to a pointer to something of the library. -/
def linkFunction : Declaration :=
  .function ⟨"void", "sfLink_set", [⟨"sfNode**", some "node"⟩]⟩

/-- A field, the result of a callback and what a pointer leads to are marked as references. -/
theorem not_marksParameters_link :
    (∀ d ∈ [linkRecord, linkCallback, linkFunction],
      ∀ type ∈ d.types, ¬ referenceMark <:+: type) ∧
    Meaning.ofDeclaration {} .object [] linkRecord = .ok (.binding (.object
      (Text.ofString "type Link* \x7b.bycopy.\x7d = object") [Text.ofString "  node*: var Node"])) ∧
    Meaning.ofDeclaration {} .object [] linkCallback = .ok (.binding (.plain
      [Text.ofString "type LinkCallback* = proc(): var Node \x7b.cdecl.\x7d"])) ∧
    Meaning.ofDeclaration {} .object [] linkFunction = .ok (.binding (.procedure
      [Text.ofString "proc link_set*(node: ptr var Node) \x7b." ++
        Text.ofString "\n  cdecl, importc: \"sfLink_set\".\x7d"])) := by
  refine ⟨by with_unfolding_all decide, by with_unfolding_all decide, by with_unfolding_all decide,
    by with_unfolding_all decide⟩

end Declarations

end Bindery
