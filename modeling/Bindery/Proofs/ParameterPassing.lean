import Bindery.Proofs.KnownHandles
import Bindery.Proofs.Log
import Bindery.Proofs.SpelledType

/-!
# Handles and references

A pointer to a type of the library is written as a handle or as a reference, and only the handles
declared before it decide that. Which those are is known of every run: a handle is added by its own
declaration, which cannot fail, and nothing else adds or removes one. What is written of a parameter
that is such a pointer follows, for every form of its procedure.
-/

namespace Bindery

/-! ## The handles of a run -/

section Handles

variable {corpus : Corpus} {options : GenerationOptions} {mode : UnionMode}

/-- A binding adds no handle. -/
theorem Context.handles_place (c : Context) (b : Binding) : (c.place b).2.handles = c.handles := by
  unfold place
  cases b.takesComment <;> rfl

/-- Whether a declaration is that of a handle that is known by a name. -/
def Declaration.IsHandleOf (d : Declaration) (bare : Text) : Prop :=
  ∃ name, d = .handle name ∧ bareName? name = some bare

/-- A visit adds the handle that is declared, and nothing else. -/
theorem Generation.mem_handles_visit {g : Generation} {l : Located} {bare : Text} :
    bare ∈ (g.visit corpus mode l).context.handles ↔
      bare ∈ g.context.handles ∨ l.declaration.IsHandleOf bare := by
  cases hmeaning : Meaning.ofDeclaration corpus mode g.context.handles l.declaration with
  | error fault =>
    rw [visit_of_error hmeaning]
    refine ⟨Or.inl, fun h => h.resolve_right ?_⟩
    rintro ⟨name, hname, hbare⟩
    rw [hname, Meaning.ofDeclaration, bindHandle, bareName, hbare] at hmeaning
    cases hmeaning
  | ok meaning =>
    rw [visit_of_ok hmeaning]
    dsimp only
    cases hd : l.declaration with
    | handle name =>
      rw [hd] at hmeaning
      obtain ⟨known, hknown, hmeaning⟩ := exists_of_bind_eq_ok hmeaning
      obtain ⟨b, _, hmeaning⟩ := exists_of_bind_eq_ok hmeaning
      cases hmeaning
      have hbare : (Declaration.handle name).IsHandleOf bare ↔ bare = known := by
        unfold bareName at hknown
        split at hknown
        · next found hfound =>
          cases hknown
          constructor
          · rintro ⟨other, hother, hbare⟩
            cases hother
            exact (Option.some.inj (hfound.symm.trans hbare)).symm
          · rintro rfl
            exact ⟨name, rfl, hfound⟩
        · cases hknown
      rw [Context.apply, Context.handles_place, List.mem_insert_iff, hbare, or_comm]
    | _ =>
      have hmeant := meant_of_ofDeclaration hmeaning
      rw [hd] at hmeant
      rw [or_iff_left (by rintro ⟨name, hname, _⟩; cases hname)]
      cases hmeant with
      | binding => rw [Context.apply, Context.handles_place]
      | documentation => rfl
      | destination => rfl

/-- The handles known behind some declarations are those that they declare. -/
theorem mem_handles_generate {ls : List Located} {bare : Text} :
    bare ∈ (generate corpus options ls).context.handles ↔
      ∃ l ∈ ls, l.declaration.IsHandleOf bare := by
  induction ls using List.reverseRecOn with
  | nil => simp [generate, Generation.run, Generation.start]
  | append_singleton ls l ih =>
    rw [generate_concat, Generation.mem_handles_visit, ih]
    simp [or_and_right, exists_or]

/-- A name without an underscore is the rest of one name only. -/
theorem bareName?_eq_some_iff {name bare : Text} (h : '_' ∉ bare) :
    bareName? name = some bare ↔ name = libraryLead ++ bare := by
  constructor
  · intro hname
    unfold bareName? at hname
    split at hname
    · next found hfound =>
      cases hname
      have hscore : ∀ entry ∈ unmarkedNames, '_' ∈ entry.2 := by with_unfolding_all decide
      exact absurd (hscore _ (mem_of_lookup hfound)) h
    · exact Text.after?_eq_some_iff.mp hname
  · rintro rfl
    exact bareName?_libraryLead bare

/-- A handle with a name is declared before a place of a header. -/
def IsHandleBefore (ls : List Located) (i : Nat) (name : Text) : Prop :=
  ∃ j < i, ∃ l, ls[j]? = some l ∧ l.declaration = .handle (libraryLead ++ name)

theorem isHandleBefore_iff {ls : List Located} {i : Nat} {name : Text} :
    IsHandleBefore ls i name ↔
      ∃ l ∈ ls.take i, l.declaration = .handle (libraryLead ++ name) := by
  constructor
  · rintro ⟨j, hlt, l, hj, hd⟩
    refine ⟨l, @List.mem_of_getElem? _ _ j _ ?_, hd⟩
    rwa [List.getElem?_take_of_lt hlt]
  · rintro ⟨l, hl, hd⟩
    obtain ⟨j, hj⟩ := List.mem_iff_getElem?.mp hl
    rw [List.getElem?_take] at hj
    split at hj
    · next hlt => exact ⟨j, hlt, l, hj, hd⟩
    · cases hj

instance (ls : List Located) (i : Nat) (name : Text) : Decidable (IsHandleBefore ls i name) :=
  decidable_of_iff' _ isHandleBefore_iff

/-- A handle is known at a place of a header exactly when it is declared before. -/
theorem mem_handles_take {ls : List Located} {i : Nat} {name : Text} (h : '_' ∉ name) :
    name ∈ (generate corpus options (ls.take i)).context.handles ↔ IsHandleBefore ls i name := by
  rw [mem_handles_generate, isHandleBefore_iff]
  refine exists_congr fun l => and_congr_right fun _ => ?_
  constructor
  · rintro ⟨other, hother, hbare⟩
    rw [hother, (bareName?_eq_some_iff h).mp hbare]
  · exact fun hd => ⟨_, hd, bareName?_libraryLead name⟩

end Handles

/-! ## Pointers to a type of the library -/

/-- The name of a type of the library, without the library's beginning, that has no rule of its
own: a capital, then letters and digits. -/
structure IsTypeStem (name : Text) : Prop where
  /-- A capital comes first. -/
  capital : IsCapital name
  /-- All characters are letters and digits. -/
  wordy : Text.IsWordy name
  /-- There is no underscore in it. -/
  score : '_' ∉ name
  /-- It is not that of the truth values. -/
  bool : name ≠ Text.ofString "Bool"
  /-- It is not known by the name of another type. -/
  shared : libraryLead ++ name ≠ sharedRecord
  /-- It is not taken for that of an integer of fixed width. -/
  width : ¬ IsWidthName (libraryLead ++ name)

instance (name : Text) : Decidable (IsTypeStem name) :=
  decidable_of_iff (IsCapital name ∧ Text.IsWordy name ∧ '_' ∉ name ∧ name ≠ Text.ofString "Bool" ∧
      libraryLead ++ name ≠ sharedRecord ∧ ¬ IsWidthName (libraryLead ++ name))
    ⟨fun ⟨h₁, h₂, h₃, h₄, h₅, h₆⟩ => ⟨h₁, h₂, h₃, h₄, h₅, h₆⟩,
      fun h => ⟨h.capital, h.wordy, h.score, h.bool, h.shared, h.width⟩⟩

/-- A pointer to a type of the library as a header spells it. -/
def pointerTo (constant : Bool) (name : Text) : Text :=
  spelledType constant (libraryLead ++ name) 1 none

section Pointers

variable {handles : Handles} {hint name : Text}

theorem IsTypeStem.isWordy (h : IsTypeStem name) : Text.IsWordy (libraryLead ++ name) := by
  have hlead : Text.IsWordy libraryLead := by with_unfolding_all decide
  exact fun c hc => (List.mem_append.mp hc).elim (hlead c) (h.wordy c)

/-- A type that has no rule of its own has no fixed name either. -/
theorem IsTypeStem.lookup_baseNames (h : IsTypeStem name) :
    baseNames.lookup (libraryLead ++ name) = none := by
  refine Bindery.lookup_baseNames (fun he => ?_) h.shared
  have hsplit : Text.ofString "sfBool" = libraryLead ++ Text.ofString "Bool" := by
    with_unfolding_all decide
  exact h.bool (List.append_cancel_left (he.trans hsplit))

theorem IsTypeStem.ofText_pointerTo (h : IsTypeStem name) (constant : Bool) :
    CType.ofText (pointerTo constant name) = ⟨libraryLead ++ name, 1, none⟩ := by
  have hne : libraryLead ++ name ≠ [] := by
    obtain ⟨c, rest, rfl, _⟩ := h.capital
    exact List.append_ne_nil_of_right_ne_nil _ (List.cons_ne_nil c rest)
  have hconst : libraryLead ++ name ≠ Text.ofString "const" :=
    libraryLead_append_ne (by with_unfolding_all decide) name
  have hbase := CType.ofText_of_not_isWidthName h.isWordy h.width h.lookup_baseNames
  rw [pointerTo, CType.ofText_spelledType (h.isWordy.isBaseType hne hconst) constant 1
    (fun s hs => absurd hs (Option.not_mem_none s)), baseNameOf, hbase]

/-- A pointer to a type of the library is the handle of that name, if it is known. Otherwise it is a
reference, unless the name it goes by is a plural. -/
theorem IsTypeStem.typeName_pointerTo (h : IsTypeStem name) (constant : Bool)
    (hplural : isOtherPlural hint (libraryLead ++ name) = false) :
    typeName handles hint (pointerTo constant name) =
      if name ∈ handles then name else referenceMark ++ name := by
  have hlead : Text.startsWith libraryLead (libraryLead ++ name) = true :=
    Text.startsWith_iff.mpr ⟨name, rfl⟩
  rw [typeName, h.ofText_pointerTo, TargetType.ofCType, TargetType.ofVoid_libraryLead]
  simp only [bareName?_libraryLead, Option.getD_some, hlead, hplural]
  by_cases hmem : name ∈ handles
  · simp [hmem, TargetType.render, TargetType.renderElement_of_isCapital, h.capital]
  · simp [hmem, TargetType.render, TargetType.renderElement_of_isCapital, h.capital]

end Pointers

/-! ## Forms in writing -/

namespace ProcedureHead

theorem getElem?_writtenParams {params : List BoundParam} {k : Nat} {p : BoundParam}
    (h : params[k]? = some p) (places : List Nat) :
    (writtenParams params places)[k]? = some (renderParam p (places.contains k)) := by
  rw [writtenParams, List.getElem?_map, List.getElem?_zipIdx, h]
  simp

/-- A parameter that may be given by value has its place among such. -/
theorem mem_places {params : List BoundParam} {k : Nat} {p : BoundParam}
    (h : params[k]? = some p) (hvalue : p.byValue = true) : k ∈ places params := by
  refine List.mem_map.mpr ⟨(p, k), List.mem_filter.mpr ⟨?_, hvalue⟩, rfl⟩
  exact List.mem_zipIdx_iff_getElem?.mpr h

end ProcedureHead

/-- All elements are a choice of elements, and so are none. -/
theorem self_mem_choices {α : Type} (xs : List α) : xs ∈ choices xs := by
  rw [choices_eq_sublists', List.mem_sublists']

theorem nil_mem_choices {α : Type} (xs : List α) : [] ∈ choices xs := by
  rw [choices_eq_sublists', List.mem_sublists']
  exact List.nil_sublist xs

/-! ## Parameters -/

section Parameters

variable {handles : Handles} {name : Text}

/-- A type with a capital is none of those that are known by their place. -/
theorem typeInPlace_of_hasCapital {type : Text} (h : HasCapital type) (cName paramName : Text) :
    typeInPlace cName paramName type = type := by
  have hwide : isWideText type = false := by
    rw [isWideText, beq_eq_false_iff_ne]
    rintro rfl
    exact absurd h (by with_unfolding_all decide)
  have hword : type ≠ wordType := by
    rintro rfl
    exact absurd h (by with_unfolding_all decide)
  rw [typeInPlace, hwide, if_neg Bool.false_ne_true, if_neg hword]

theorem IsCapital.isReference_eq_false (h : IsCapital name) : isReference name = false := by
  rw [isReference, Bool.eq_false_iff]
  intro hstarts
  obtain ⟨rest, hrest⟩ := Text.startsWith_iff.mp hstarts
  obtain ⟨c, tail, rfl, hupper⟩ := h
  rw [referenceMark, Text.ofString_eq] at hrest
  rw [(List.cons.inj hrest).1] at hupper
  exact absurd hupper (by decide)

theorem startsWith_const_pointerTo (constant : Bool) (name : Text) :
    Text.startsWith "const" (pointerTo constant name) = constant := by
  cases constant with
  | false =>
    simp [pointerTo, spelledType, libraryLead, Text.ofString_eq, Text.startsWith, Text.after?]
  | true => simp [pointerTo, spelledType, Text.ofString_eq, Text.startsWith, Text.after?]

/-- What is written for the type of a parameter that is a pointer to a type of the library: the
handle where that is known, else a reference. One to something constant is given as a reference to
anything that has a place, or by value. -/
def passedType (known constant value : Bool) (name : Text) : Text :=
  if known then name
  else if !constant then referenceMark ++ name
  else if value then name
  else "(" ++ (referenceMark ++ name) ++ ")\x7blvalue\x7d"

/-- A parameter that is a pointer to a type of the library may be given by value exactly when that
is constant and not known as a handle. -/
theorem IsTypeStem.bindParam_pointerTo (h : IsTypeStem name) {p : Param} {constant : Bool}
    (htype : p.type = pointerTo constant name)
    (hplural : isOtherPlural (p.name.getD []) (libraryLead ++ name) = false) (cName : Text)
    (k : Nat) : bindParam handles cName k p = ⟨paramName k p,
      if name ∈ handles then name else referenceMark ++ name,
      constant && !decide (name ∈ handles)⟩ := by
  have hcapital : HasCapital name := by
    obtain ⟨c, rest, hname, hupper⟩ := h.capital
    rw [hname]
    exact ⟨c, List.mem_cons_self, hupper⟩
  have hwritten : HasCapital (if name ∈ handles then name else referenceMark ++ name) := by
    split
    · exact hcapital
    · exact hcapital.of_subset (List.subset_append_right referenceMark name)
  rw [bindParam, paramType, htype, h.typeName_pointerTo constant hplural,
    typeInPlace_of_hasCapital hwritten, startsWith_const_pointerTo]
  by_cases hmem : name ∈ handles
  · simp [hmem, h.capital.isReference_eq_false]
  · simp [hmem, isReference, Text.startsWith]

theorem IsTypeStem.renderParam_pointerTo (h : IsTypeStem name) {p : Param} {constant : Bool}
    (htype : p.type = pointerTo constant name)
    (hplural : isOtherPlural (p.name.getD []) (libraryLead ++ name) = false) (cName : Text)
    (k : Nat) (value : Bool) : ProcedureHead.renderParam (bindParam handles cName k p) value =
      paramName k p ++ ": " ++ passedType (decide (name ∈ handles)) constant value name := by
  rw [h.bindParam_pointerTo htype hplural]
  by_cases hmem : name ∈ handles
  · simp [ProcedureHead.renderParam, passedType, hmem]
  · cases constant <;> simp [ProcedureHead.renderParam, passedType, hmem, dereference]

/-- Only a known handle or a value is written as the mere name. -/
theorem passedType_eq_iff {known constant value : Bool} :
    passedType known constant value name = name ↔
      known = true ∨ constant = true ∧ value = true := by
  have hmark : referenceMark ++ name ≠ name := by
    intro he
    have hlength := congrArg List.length he
    rw [List.length_append, referenceMark, Text.ofString_eq] at hlength
    simp at hlength
  have hlvalue : ("(" : Text) ++ (referenceMark ++ name) ++ ")\x7blvalue\x7d" ≠ name := by
    intro he
    have hlength := congrArg List.length he
    rw [List.length_append, List.length_append, List.length_append, Text.ofString_eq] at hlength
    simp at hlength
    omega
  simp only [List.append_assoc] at hlvalue
  cases known <;> cases constant <;> cases value <;> simp [passedType, hmark, hlvalue]

/-- With a parameter that has a type there are no parameters but the declared ones. -/
theorem effectiveParams_of_ne_void {params : List Param} {k : Nat} {p : Param}
    (h : params[k]? = some p) (hp : p.type ≠ Text.ofString "void") :
    effectiveParams params = params := by
  unfold effectiveParams
  split
  · next type =>
    rw [List.getElem?_singleton] at h
    split at h
    · cases h
      exact if_neg hp
    · cases h
  · rfl

end Parameters

/-! ## Passing a parameter -/

/-- How a parameter is written in the forms of a procedure, where it is a pointer to a type of the
library and stands at a place of a header. -/
structure IsPassed (ls : List Located) (i : Nat) (params : List BoundParam) (k : Nat)
    (paramName : Text) (constant : Bool) (name : Text) : Prop where
  /-- It is the handle in all forms exactly when that is declared before. -/
  handle : (∀ places ∈ choices (ProcedureHead.places params),
      (ProcedureHead.writtenParams params places)[k]? = some (paramName ++ ": " ++ name)) ↔
    IsHandleBefore ls i name
  /-- Otherwise a pointer to something that is not constant is a reference in all forms. -/
  reference : ¬ IsHandleBefore ls i name → constant = false →
    ∀ places ∈ choices (ProcedureHead.places params),
      (ProcedureHead.writtenParams params places)[k]? =
        some (paramName ++ ": " ++ (referenceMark ++ name))
  /-- And one to something constant is a value in the forms that choose it, and a reference to
  anything that has a place in the others. -/
  value : ¬ IsHandleBefore ls i name → constant = true →
    ∀ places ∈ choices (ProcedureHead.places params),
      (ProcedureHead.writtenParams params places)[k]? = some (paramName ++ ": " ++
        if places.contains k then name else "(" ++ (referenceMark ++ name) ++ ")\x7blvalue\x7d")
  /-- There are forms of both kinds. -/
  choice : ¬ IsHandleBefore ls i name → constant = true →
    [] ∈ choices (ProcedureHead.places params) ∧
      ∃ places ∈ choices (ProcedureHead.places params), places.contains k = true

section Passing

variable {corpus : Corpus} {options : GenerationOptions} {ls : List Located} {i : Nat}

/-- What is written of a parameter for every choice of values says how it is passed. -/
theorem isPassed_of_written {params : List BoundParam} {k : Nat} {paramName name : Text}
    {constant : Bool} (known : Bool) (hknown : known = true ↔ IsHandleBefore ls i name)
    (hchoice : known = false → constant = true → k ∈ ProcedureHead.places params)
    (hwritten : ∀ places, (ProcedureHead.writtenParams params places)[k]? =
      some (paramName ++ ": " ++ passedType known constant (places.contains k) name)) :
    IsPassed ls i params k paramName constant name := by
  have hunknown : ¬ IsHandleBefore ls i name → known = false := fun h =>
    Bool.eq_false_iff.mpr fun hk => h (hknown.mp hk)
  refine ⟨?_, ?_, ?_, ?_⟩
  · rw [← hknown]
    constructor
    · intro hall
      have hforeign := hall [] (nil_mem_choices _)
      rw [hwritten, Option.some.injEq, List.append_right_inj, passedType_eq_iff] at hforeign
      exact hforeign.resolve_right fun h => by simp at h
    · intro hk places _
      rw [hwritten, passedType_eq_iff.mpr (Or.inl hk)]
  · intro hbefore hconstant places _
    rw [hwritten, hunknown hbefore, hconstant]
    rfl
  · intro hbefore hconstant places _
    rw [hwritten, hunknown hbefore, hconstant]
    rfl
  · intro hbefore hconstant
    refine ⟨nil_mem_choices _, _, self_mem_choices _, ?_⟩
    exact List.contains_iff_mem.mpr (hchoice (hunknown hbefore) hconstant)

/-- What a declaration of a header gives is in the log of the whole header. -/
theorem exists_mem_logOf {l : Located} {blocks : List Text} (hl : ls[i]? = some l)
    (hok : (generate corpus options (ls.take i)).outcome corpus options.unionMode l = .ok blocks)
    (hne : blocks ≠ []) : ∃ e ∈ logOf corpus options ls, e.blocks = blocks := by
  refine ⟨⟨currentModule options (ls.take i ++ [l]), blocks⟩, ?_, rfl⟩
  refine List.mem_filterMap.mpr ⟨i, List.mem_range.mpr (List.getElem?_eq_some_iff.mp hl).1, ?_⟩
  rw [hl, Option.bind_some]
  exact entryFor?_eq_some_iff.mpr ⟨hok, hne, rfl⟩

/-- **Handle or reference is decided by what is declared before.** Where a function of a header is
accepted, its forms are written, one for every choice of values and each with its parameters in
front. Each of its parameters that is a pointer to a type of the library is a handle in all of them
exactly when a handle of that name is declared before the function. Otherwise it is a reference, or
in some forms a value, as far as what it points to is constant. -/
theorem generate_passes_pointers {l : Located} {s : Signature} {blocks : List Text}
    (hl : ls[i]? = some l) (hs : l.declaration = .function s)
    (hok : (generate corpus options (ls.take i)).outcome corpus options.unionMode l = .ok blocks) :
    ∃ head params comment,
      procedureOf (generate corpus options (ls.take i)).context.handles s = .ok (head, params) ∧
        (∃ e ∈ logOf corpus options ls,
          e.blocks = (Binding.procedure (head.forms params)).blocks comment) ∧
        (∀ form, form ∈ head.forms params ↔
          ∃ places ∈ choices (ProcedureHead.places params), head.form params places = form) ∧
        (∀ places, head.declare (ProcedureHead.enumerate
          (ProcedureHead.writtenParams params places)) <+: head.form params places) ∧
        ∀ k (p : Param) constant name, s.params[k]? = some p → p.type = pointerTo constant name →
          IsTypeStem name → isOtherPlural (p.name.getD []) (libraryLead ++ name) = false →
            IsPassed ls i params k (paramName k p) constant name := by
  obtain ⟨meaning, hmeaning, hblocks⟩ := Generation.outcome_eq_ok_iff.mp hok
  rw [hs] at hmeaning
  obtain ⟨b, hb, hmeaning⟩ := exists_of_bind_eq_ok hmeaning
  cases hmeaning
  obtain ⟨⟨head, params⟩, hprocedure, hb⟩ := exists_of_bind_eq_ok hb
  cases hb
  rw [Context.fst_apply] at hblocks
  have hne : blocks ≠ [] := by
    rw [← hblocks]
    exact List.cons_ne_nil _ _
  obtain ⟨e, he, heq⟩ := exists_mem_logOf hl hok hne
  refine ⟨head, params, _, hprocedure, ⟨e, he, heq.trans hblocks.symm⟩,
    fun _ => ProcedureHead.mem_forms_iff, head.declare_prefix_form params, ?_⟩
  intro k p constant name hp htype hname hplural
  have hvoid : p.type ≠ Text.ofString "void" := by
    intro he
    have hstar : '*' ∈ p.type := by
      rw [htype, pointerTo, spelledType]
      simp
    rw [he] at hstar
    exact absurd hstar (by with_unfolding_all decide)
  have hbound : params[k]? =
      some (bindParam (generate corpus options (ls.take i)).context.handles s.name k p) := by
    obtain ⟨method, _, hparams⟩ := exists_procedureNamed hprocedure
    have hget := congrArg (fun procedure => procedure.2[k]?) hparams
    dsimp only at hget
    rw [getElem?_procedureNamed, effectiveParams_of_ne_void hp hvoid, hp] at hget
    exact hget.symm
  refine isPassed_of_written
    (decide (name ∈ (generate corpus options (ls.take i)).context.handles)) ?_ ?_ ?_
  · rw [decide_eq_true_eq]
    exact mem_handles_take hname.score
  · intro hknown hconstant
    refine ProcedureHead.mem_places hbound ?_
    rw [hname.bindParam_pointerTo htype hplural, hconstant, hknown]
    rfl
  · intro places
    rw [ProcedureHead.getElem?_writtenParams hbound, hname.renderParam_pointerTo htype hplural]

/-- A function on something that is declared as a handle before it, on something that is declared
behind it, and on something that is no handle. -/
def viewFunction : Signature :=
  { result := "void"
    name := "sfWindow_setView"
    params := [⟨"sfWindow*", some "window"⟩, ⟨"const sfView*", some "view"⟩,
      ⟨"const sfVector2f*", some "size"⟩] }

/-- The function between the two handles. -/
def viewHeader : List Located :=
  [{ declaration := .handle "sfView" }, { declaration := .function viewFunction },
    { declaration := .handle "sfWindow" }]

/-- The handle that is declared before is passed as such, and the other one as a reference. What is
constant and no handle is also given by value. -/
theorem generate_passes_pointers_viewHeader :
    ∃ head params,
      procedureOf (generate {} {} (viewHeader.take 1)).context.handles viewFunction =
          .ok (head, params) ∧
        IsPassed viewHeader 1 params 0 "window" false "Window" ∧
        IsPassed viewHeader 1 params 1 "view" true "View" ∧
        IsPassed viewHeader 1 params 2 "size" true "Vector2f" ∧
        ¬ IsHandleBefore viewHeader 1 "Window" ∧ IsHandleBefore viewHeader 1 "View" ∧
        ¬ IsHandleBefore viewHeader 1 "Vector2f" := by
  have hisOk : ((generate {} {} (viewHeader.take 1)).outcome {} .object
      { declaration := .function viewFunction }).isOk = true := by
    with_unfolding_all decide
  cases hok : (generate {} {} (viewHeader.take 1)).outcome {} .object
      { declaration := .function viewFunction } with
  | error fault =>
    rw [hok] at hisOk
    cases hisOk
  | ok blocks =>
    obtain ⟨head, params, _, hprocedure, _, _, _, hpassed⟩ :=
      @generate_passes_pointers {} {} viewHeader 1 _ _ _ rfl rfl hok
    have hwindow := hpassed 0 ⟨"sfWindow*", some "window"⟩ false "Window"
      (by with_unfolding_all decide)
      (by with_unfolding_all decide) (by with_unfolding_all decide) (by with_unfolding_all decide)
    have hview := hpassed 1 ⟨"const sfView*", some "view"⟩ true "View"
      (by with_unfolding_all decide)
      (by with_unfolding_all decide) (by with_unfolding_all decide) (by with_unfolding_all decide)
    have hsize := hpassed 2 ⟨"const sfVector2f*", some "size"⟩ true "Vector2f"
      (by with_unfolding_all decide)
      (by with_unfolding_all decide) (by with_unfolding_all decide) (by with_unfolding_all decide)
    have hnames : (paramName 0 ⟨"sfWindow*", some "window"⟩,
        paramName 1 ⟨"const sfView*", some "view"⟩,
        paramName 2 ⟨"const sfVector2f*", some "size"⟩) =
          (Text.ofString "window", Text.ofString "view", Text.ofString "size") := by
      with_unfolding_all decide
    rw [Prod.mk.injEq, Prod.mk.injEq] at hnames
    rw [hnames.1] at hwindow
    rw [hnames.2.1] at hview
    rw [hnames.2.2] at hsize
    exact ⟨head, params, hprocedure, hwindow, hview, hsize, by with_unfolding_all decide,
      by with_unfolding_all decide,
      by with_unfolding_all decide⟩

end Passing

end Bindery
