import Bindery.Proofs.Form
import Bindery.Proofs.Origin

/-!
# Names under different handles

The handles that are known decide whether a pointer is written as a handle or as a reference. That
shows in types and in the parameters that may be given by value, and in nothing else: a name loses
its receiver either way, and no type that depends on the handles is one of the types that names and
marks of export are made after.
-/

namespace Bindery

/-- A name with a capital letter in front. -/
def IsCapital (name : Text) : Prop := ∃ c rest, name = c :: rest ∧ Text.isUpper c = true

theorem isCapital_iff {name : Text} : IsCapital name ↔ name.head?.any Text.isUpper = true := by
  cases name with
  | nil => simp [IsCapital]
  | cons c rest => simp [IsCapital]

instance (name : Text) : Decidable (IsCapital name) := decidable_of_iff' _ isCapital_iff

/-- Handles that are all named with a capital letter in front. -/
def Handles.AreCapital (handles : Handles) : Prop := ∀ handle ∈ handles, IsCapital handle

instance (handles : Handles) : Decidable handles.AreCapital := List.decidableBAll _ handles

/-- A text with a capital letter in it. -/
def HasCapital (t : Text) : Prop := ∃ c ∈ t, Text.isUpper c = true

instance (t : Text) : Decidable (HasCapital t) := List.decidableBEx _ t

theorem HasCapital.of_subset {s t : Text} (h : HasCapital s) (hs : s ⊆ t) : HasCapital t := by
  obtain ⟨c, hc, hupper⟩ := h
  exact ⟨c, hs hc, hupper⟩

/-! ## Types -/

section Types

variable {handles : Handles}

/-- A type is the same whether or not some handles are known, or it is a pointer to one of them:
then it is written as that handle and not as a reference or as a pointer to an array. -/
theorem ofCType_eq_or (h : handles.AreCapital) (hint : Text) (type : CType) :
    TargetType.ofCType handles hint type = TargetType.ofCType [] hint type ∨
      ∃ pointers name size, IsCapital name ∧
        TargetType.ofCType handles hint type = ⟨pointers, false, name, size⟩ ∧
        TargetType.ofCType [] hint type =
          if isOtherPlural hint (TargetType.ofVoid type).base then ⟨pointers + 1, false, name, size⟩
          else ⟨pointers, true, name, size⟩ := by
  unfold TargetType.ofCType
  generalize TargetType.ofVoid type = t
  dsimp only
  by_cases hpointer : (t.pointers > 0 && Text.startsWith libraryLead t.base) = true
  · rw [if_pos hpointer, if_pos hpointer]
    by_cases hmem : handles.contains ((bareName? t.base).getD t.base) = true
    · right
      have hpos : 0 < t.pointers := by
        simp only [Bool.and_eq_true, decide_eq_true_eq] at hpointer
        exact hpointer.1
      refine ⟨t.pointers - 1, _, t.size, h _ (List.contains_iff_mem.mp hmem), if_pos hmem, ?_⟩
      rw [Nat.sub_add_cancel hpos]
      exact if_neg Bool.false_ne_true
    · rw [if_neg hmem]
      exact Or.inl (if_neg Bool.false_ne_true).symm
  · rw [if_neg hpointer, if_neg hpointer]
    exact Or.inl rfl

/-- Either text is another one or both are, where the texts are equal or have capitals and the
other one has none. -/
theorem beq_eq_beq {s t u : Text} (h : s = t ∨ HasCapital s ∧ HasCapital t)
    (hu : ¬ HasCapital u) : (s == u) = (t == u) := by
  rcases h with rfl | ⟨hs, ht⟩
  · rfl
  · have hne : ∀ {v : Text}, HasCapital v → (v == u) = false := fun hv =>
      beq_eq_false_iff_ne.mpr fun heq => hu (heq ▸ hv)
    rw [hne hs, hne ht]

namespace TargetType

variable {t : TargetType}

theorem renderElement_of_isCapital (h : IsCapital t.name) : t.renderElement =
    (List.replicate t.pointers (Text.ofString "ptr ")).flatten ++
      (if t.reference then referenceMark else []) ++ t.name := by
  refine if_neg fun heq => ?_
  obtain ⟨c, rest, hname, hupper⟩ := h
  have hcapital : HasCapital (Text.ofString "ptr char") := by
    refine ⟨c, ?_, hupper⟩
    rw [← heq, hname]
    exact List.mem_append_right _ List.mem_cons_self
  exact absurd hcapital (by with_unfolding_all decide)

/-- A type that is made of a capital name has a capital in writing. -/
theorem hasCapital_render (h : IsCapital t.name) : HasCapital t.render := by
  have helement : HasCapital t.renderElement := by
    rw [renderElement_of_isCapital h]
    obtain ⟨c, rest, hname, hupper⟩ := h
    rw [hname]
    exact ⟨c, List.mem_append_right _ List.mem_cons_self, hupper⟩
  unfold render
  split
  · exact helement.of_subset
      (List.subset_append_of_subset_left _ (List.subset_append_right _ _))
  · exact helement

end TargetType

/-- A type is the same whether or not some handles are known, or else it has a capital letter. -/
theorem typeName_eq_or (h : handles.AreCapital) (hint spelling : Text) :
    typeName handles hint spelling = typeName [] hint spelling ∨
      HasCapital (typeName handles hint spelling) ∧ HasCapital (typeName [] hint spelling) := by
  unfold typeName
  rcases ofCType_eq_or h hint (CType.ofText spelling) with heq | ⟨pointers, name, size, hname, hh, hn⟩
  · rw [heq]
    exact Or.inl rfl
  · right
    rw [hh, hn]
    refine ⟨TargetType.hasCapital_render hname, ?_⟩
    split
    · exact TargetType.hasCapital_render hname
    · exact TargetType.hasCapital_render hname

/-- The same holds of what a function returns. -/
theorem resultType_eq_or (h : handles.AreCapital) (type : Text) :
    resultType handles type = resultType [] type ∨
      HasCapital (resultType handles type) ∧ HasCapital (resultType [] type) := by
  have hmark : ¬ HasCapital referenceMark := by with_unfolding_all decide
  have hreplace : ∀ {t : Text}, HasCapital t → HasCapital (Text.replace referenceMark "ptr " t) := by
    rintro t ⟨c, hc, hupper⟩
    have hne : referenceMark ≠ [] := by with_unfolding_all decide
    exact ⟨c, Text.mem_replace (fun hmem => hmark ⟨c, hmem, hupper⟩) hne hc, hupper⟩
  rcases typeName_eq_or h [] type with heq | ⟨hh, hn⟩
  · exact Or.inl (congrArg (Text.replace referenceMark "ptr ") heq)
  · exact Or.inr ⟨hreplace hh, hreplace hn⟩

private theorem not_hasCapital_wide : ¬ HasCapital (Text.ofString "ptr uint32") := by
  with_unfolding_all decide

private theorem not_hasCapital_cstring : ¬ HasCapital (Text.ofString "cstring") := by
  with_unfolding_all decide

end Types

/-! ## Receivers -/

section Receivers

variable {handles : Handles} {params : List Param}

private theorem dereference_of_isCapital {name : Text} (h : IsCapital name) :
    dereference name = name := by
  obtain ⟨c, rest, rfl, hupper⟩ := h
  unfold dereference
  cases hafter : Text.after? referenceMark (c :: rest) with
  | none => rfl
  | some left =>
    have heq := Text.after?_eq_some_iff.mp hafter
    rw [referenceMark, Text.ofString_eq] at heq
    obtain ⟨rfl, _⟩ := List.cons.inj heq
    exact absurd hupper (by decide)

/-- A receiver that is a single pointer is spoken of by its name, be it a handle or not. -/
theorem dereference_render_single {name : Text} (h : IsCapital name) (reference : Bool) :
    dereference (TargetType.render ⟨0, reference, name, none⟩) = name := by
  rw [TargetType.render, TargetType.renderElement_of_isCapital h]
  cases reference with
  | true => simp [dereference]
  | false => exact dereference_of_isCapital h

/-- The name of any other receiver is written with a space. -/
theorem space_mem_dereference_render {t : TargetType} (h : IsCapital t.name)
    (hother : t.pointers ≠ 0 ∨ t.size ≠ none) : ' ' ∈ dereference t.render := by
  have hkeeps : ∀ {type : Text}, (∃ c rest, type = c :: rest ∧ c ≠ 'v') → ' ' ∈ type →
      ' ' ∈ dereference type := by
    rintro _ ⟨c, rest, rfl, hc⟩ hspace
    have hafter : Text.after? referenceMark (c :: rest) = none := by
      rw [referenceMark, Text.ofString_eq]
      exact if_neg (Ne.symm hc)
    rwa [dereference, hafter]
  unfold TargetType.render
  cases hsize : t.size with
  | some size =>
    refine hkeeps ?_ ?_
    · rw [Text.ofString_eq]
      exact ⟨'a', _, rfl, by decide⟩
    · have hcomma : ' ' ∈ Text.ofString ", " := by with_unfolding_all decide
      exact List.mem_append_left _ (List.mem_append_left _ (List.mem_append_right _ hcomma))
  | none =>
    obtain ⟨n, hn⟩ := Nat.exists_eq_succ_of_ne_zero (hother.resolve_right fun hne => hne hsize)
    dsimp only
    rw [TargetType.renderElement_of_isCapital h, hn, List.replicate_succ, List.flatten_cons,
      Text.ofString_eq]
    exact hkeeps ⟨'p', _, rfl, by decide⟩ (List.mem_append_left _ (List.mem_append_left _
      (List.mem_append_left _ (by decide))))

private theorem after?_of_mem {lead t : Text} {c : Char} (hlead : c ∈ lead) (ht : c ∉ t) :
    Text.after? lead t = none := by
  cases hafter : Text.after? lead t with
  | none => rfl
  | some rest =>
    rw [Text.after?_eq_some_iff.mp hafter] at ht
    exact absurd (List.mem_append_left rest hlead) ht

open ProcedureName

/-- The handles that are known do not decide whether a name loses its receiver. -/
theorem dropReceiver_eq (h : handles.AreCapital) {t : Text} (hspace : ' ' ∉ t) :
    dropReceiver handles params t = dropReceiver [] params t := by
  cases params with
  | nil => rfl
  | cons first params =>
    unfold dropReceiver typeName
    dsimp only
    rcases ofCType_eq_or h [] (CType.ofText first.type) with
      heq | ⟨pointers, name, size, hname, hh, hn⟩
    · rw [heq]
    · rw [if_neg (by simp [isOtherPlural, Text.endsWith, Text.before?, Text.ofString_eq,
        Text.after?])] at hn
      rw [hh, hn]
      by_cases hsingle : pointers = 0 ∧ size = none
      · obtain ⟨rfl, rfl⟩ := hsingle
        rw [dereference_render_single hname, dereference_render_single hname]
      · have hother : pointers ≠ 0 ∨ size ≠ none := by
          rwa [ne_eq, ne_eq, ← not_and_or]
        have hnone : ∀ reference, Text.after? (dereference (TargetType.render
            ⟨pointers, reference, name, size⟩) ++ ['_']) t = none := fun reference =>
          after?_of_mem (List.mem_append_left _ (space_mem_dereference_render
            (t := ⟨pointers, reference, name, size⟩) hname hother)) hspace
        rw [hnone, hnone]

/-- A method has the same name whatever handles are known. -/
theorem methodName_eq_nil (h : handles.AreCapital) {cName : Text} (hspace : ' ' ∉ cName) :
    methodName handles cName params = methodName [] cName params := by
  rw [methodName_eq, methodName_eq]
  unfold bareName
  cases hbare : bareName? cName with
  | none => rfl
  | some bare =>
    have hsign : IsSign ' ' := by decide
    have hwhole : ' ' ∉ wholeName bare cName := fun hmem =>
      hspace (mem_of_mem_bareName? hsign hbare (mem_of_mem_wholeName hsign hmem))
    exact congrArg (fun t => Except.ok (identifierName t)) (dropReceiver_eq h hwhole)

end Receivers

/-! ## Procedures -/

section Procedures

variable {handles : Handles}

private theorem isWideText_eq {s t : Text} (h : s = t ∨ HasCapital s ∧ HasCapital t) :
    isWideText s = isWideText t :=
  beq_eq_beq h not_hasCapital_wide

private theorem isCString_eq {s t : Text} (h : s = t ∨ HasCapital s ∧ HasCapital t) :
    isCString s = isCString t :=
  beq_eq_beq h not_hasCapital_cstring

theorem takesText_eq (h : handles.AreCapital) (params : List Param) :
    takesText handles params = takesText [] params := by
  unfold takesText
  congr 1
  funext ⟨p, i⟩
  exact congrArg (· && _) (isCString_eq (typeName_eq_or h _ _))

theorem any_isWideText_eq (h : handles.AreCapital) (params : List Param) :
    (params.map (paramType handles)).any isWideText =
      (params.map (paramType [])).any isWideText := by
  rw [List.any_map, List.any_map]
  congr 1
  funext p
  exact isWideText_eq (typeName_eq_or h _ _)

/-- What two procedures have in common that differ in their types at most. -/
structure SameCall (p q : ProcedureHead × List BoundParam) : Prop where
  /-- They have the same name. -/
  name : p.1.name = q.1.name
  /-- Both are seen by other modules, or neither is. -/
  exported : p.1.exported = q.1.exported
  /-- Both are called as assignments, or neither is. -/
  setter : p.1.setter = q.1.setter
  /-- They stand for the same foreign procedure. -/
  symbol : p.1.symbol = q.1.symbol
  /-- Their parameters have the same names in the same order. -/
  params : p.2.map (·.name) = q.2.map (·.name)

theorem SameCall.trans {p q r : ProcedureHead × List BoundParam} (hpq : SameCall p q)
    (hqr : SameCall q r) : SameCall p r :=
  ⟨hpq.name.trans hqr.name, hpq.exported.trans hqr.exported, hpq.setter.trans hqr.setter,
    hpq.symbol.trans hqr.symbol, hpq.params.trans hqr.params⟩

theorem SameCall.symm {p q : ProcedureHead × List BoundParam} (h : SameCall p q) :
    SameCall q p :=
  ⟨h.name.symm, h.exported.symm, h.setter.symm, h.symbol.symm, h.params.symm⟩

theorem SameCall.callee {p q : ProcedureHead × List BoundParam} (h : SameCall p q) :
    p.1.callee = q.1.callee := by
  rw [ProcedureHead.callee, ProcedureHead.callee, h.name, h.setter]

/-- A function is refused whatever handles are known, or it becomes a procedure that is called
the same whatever handles are known. -/
theorem procedureOf_nil (h : handles.AreCapital) {s : Signature} (hspace : ' ' ∉ s.name) :
    (∃ fault, procedureOf handles s = .error fault ∧ procedureOf [] s = .error fault) ∨
      ∃ p q, procedureOf handles s = .ok p ∧ procedureOf [] s = .ok q ∧ SameCall p q := by
  rw [procedureOf_eq, procedureOf_eq, methodName_eq_nil h hspace]
  cases methodName [] s.name (effectiveParams s.params) with
  | error fault => exact Or.inl ⟨fault, rfl, rfl⟩
  | ok method =>
    refine Or.inr ⟨_, _, rfl, rfl, ?_⟩
    constructor
    · simp only [procedureNamed]
      rw [isCString_eq (resultType_eq_or h s.result), takesText_eq h]
    · simp only [procedureNamed]
      rw [isWideText_eq (resultType_eq_or h s.result), any_isWideText_eq h]
    · rfl
    · rfl
    · simp only [procedureNamed, List.map_map]
      rfl

theorem bindFunction_of_procedureOf {s : Signature} {p : ProcedureHead × List BoundParam}
    (h : procedureOf handles s = .ok p) :
    bindFunction handles s = .ok (.procedure (p.1.forms p.2)) := by
  rw [bindFunction, h]
  rfl

theorem bindFunction_of_error {s : Signature} {fault : BindingFault}
    (h : procedureOf handles s = .error fault) : bindFunction handles s = .error fault := by
  rw [bindFunction, h]
  rfl

/-- A procedure stands for the function that it is made of. -/
theorem symbol_of_procedureOf {s : Signature} {p : ProcedureHead × List BoundParam}
    (h : procedureOf handles s = .ok p) : p.1.symbol = s.name := by
  obtain ⟨_, _, rfl⟩ := exists_procedureNamed h
  rfl

end Procedures

/-! ## Foreign declarations in writing -/

/-- A parameter in writing: its name, and its type behind that. -/
def typedParam (name type : Text) : Text := name ++ ": " ++ type

/-- Whether a form is a foreign declaration by what it is called, by whether the mark of export is
behind that, by the names of its parameters and by the symbol that it stands for. Behind the name of
a parameter is its type, and behind all of them that of the result, if there is one. -/
def DeclaresForeign (callee : Text) (exported : Bool) (names : List Text) (symbol form : Text) :
    Prop :=
  ∃ (types : List Text) (result : Option Text), types.length = names.length ∧
    form = "proc " ++ callee ++ (if exported then ['*'] else []) ++ ['('] ++
      List.intercalate ", " (List.zipWith typedParam names types) ++ [')'] ++
      (match result with
        | some type => ": " ++ type
        | none => []) ++
      " \x7b.\n  cdecl, importc: \"" ++ symbol ++ "\".\x7d"

namespace ProcedureHead

/-- Where none is given by value, every parameter is written by its name and a type. -/
theorem writtenParams_nil (params : List BoundParam) : ∃ types, types.length = params.length ∧
    writtenParams params [] = List.zipWith typedParam (params.map (·.name)) types := by
  refine ⟨params.map fun p : BoundParam =>
    if !p.byValue then p.type else "(" ++ p.type ++ ")\x7blvalue\x7d", List.length_map _, ?_⟩
  have hwritten : writtenParams params [] = params.map (renderParam · false) := by
    conv_rhs => rw [← List.zipIdx_map_fst 0 params, List.map_map]
    rfl
  rw [hwritten, List.zipWith_map, List.zipWith_self]
  rfl

/-- The form without values is the foreign declaration. -/
theorem declaresForeign_form (h : ProcedureHead) (params : List BoundParam) :
    DeclaresForeign h.callee h.exported (params.map (·.name)) h.symbol (h.form params []) := by
  obtain ⟨types, hlength, hwritten⟩ := writtenParams_nil params
  refine ⟨types, h.result, hlength.trans (List.length_map _).symm, ?_⟩
  unfold form declare
  rw [hwritten]
  rfl

end ProcedureHead

/-- What handles are known decides neither whether a function becomes a procedure nor how that is
called. Under any two sets of handles named with capitals it is refused for the same reason, or its
first form under either is a foreign declaration of the same name, for the same symbol, that is
exported and called as an assignment or not, and that has parameters of the same names. So both are
written in the same way but for their types. -/
theorem bindFunction_same_call {handles handles' : Handles} (h : handles.AreCapital)
    (h' : handles'.AreCapital) {s : Signature} (hspace : ' ' ∉ s.name) :
    (∃ fault, bindFunction handles s = .error fault ∧ bindFunction handles' s = .error fault) ∨
      ∃ p q, procedureOf handles s = .ok p ∧ procedureOf handles' s = .ok q ∧
        bindFunction handles s = .ok (.procedure (p.1.forms p.2)) ∧
        bindFunction handles' s = .ok (.procedure (q.1.forms q.2)) ∧
        (p.1.forms p.2).head? = some (p.1.form p.2 []) ∧
        (q.1.forms q.2).head? = some (q.1.form q.2 []) ∧ SameCall p q ∧
        DeclaresForeign p.1.callee p.1.exported (p.2.map (·.name)) s.name (p.1.form p.2 []) ∧
        DeclaresForeign p.1.callee p.1.exported (p.2.map (·.name)) s.name (q.1.form q.2 []) := by
  rcases procedureOf_nil h hspace with ⟨fault, hp, hnil⟩ | ⟨p, r, hp, hnil, hpr⟩
  · left
    rcases procedureOf_nil h' hspace with ⟨fault', hq, hnil'⟩ | ⟨q, r, hq, hnil', _⟩
    · obtain rfl := Except.error.inj (hnil.symm.trans hnil')
      exact ⟨fault, bindFunction_of_error hp, bindFunction_of_error hq⟩
    · cases hnil.symm.trans hnil'
  · right
    rcases procedureOf_nil h' hspace with ⟨fault, hq, hnil'⟩ | ⟨q, r', hq, hnil', hqr⟩
    · cases hnil.symm.trans hnil'
    · obtain rfl := Except.ok.inj (hnil.symm.trans hnil')
      have hsame := hpr.trans hqr.symm
      have hforeign := p.1.declaresForeign_form p.2
      have hforeign' := q.1.declaresForeign_form q.2
      rw [symbol_of_procedureOf hp] at hforeign
      rw [symbol_of_procedureOf hq, ← hsame.callee, ← hsame.exported, ← hsame.params] at hforeign'
      exact ⟨p, q, hp, hq, bindFunction_of_procedureOf hp, bindFunction_of_procedureOf hq,
        p.1.head?_forms p.2, q.1.head?_forms q.2, hsame, hforeign, hforeign'⟩

/-- A setter on a type that may be known as a handle, and so may that of its argument. -/
def setView : Signature :=
  { result := "void"
    name := "sfRenderWindow_setView"
    params := [⟨"sfRenderWindow*", some "renderWindow"⟩, ⟨"const sfView*", some "view"⟩] }

/-- The setter is an assignment to `view` either way, but only an unknown view may be given by
value. -/
theorem bindFunction_same_call_setView :
    ∃ p q, procedureOf ["RenderWindow", "View"] setView = .ok p ∧
      procedureOf ["Window"] setView = .ok q ∧ SameCall p q ∧
      (p.1.callee, p.2.map (·.byValue)) = (Text.ofString "`view=`", [false, false]) ∧
      (q.1.callee, q.2.map (·.byValue)) = (Text.ofString "`view=`", [false, true]) := by
  have hknown : (procedureOf ["RenderWindow", "View"] setView).map
      (fun p => (p.1.callee, p.2.map (·.byValue))) =
        .ok (Text.ofString "`view=`", [false, false]) := by
    with_unfolding_all decide
  have hunknown : (procedureOf ["Window"] setView).map
      (fun q => (q.1.callee, q.2.map (·.byValue))) =
        .ok (Text.ofString "`view=`", [false, true]) := by
    with_unfolding_all decide
  have hboth : Handles.AreCapital ["RenderWindow", "View"] := by with_unfolding_all decide
  have hone : Handles.AreCapital ["Window"] := by with_unfolding_all decide
  have hspace : ' ' ∉ setView.name := by with_unfolding_all decide
  rcases bindFunction_same_call hboth hone hspace with
    ⟨fault, hp, _⟩ | ⟨p, q, hp, hq, _, _, _, _, hsame, _, _⟩
  · have hok : (bindFunction ["RenderWindow", "View"] setView).isOk = true := by
      with_unfolding_all decide
    rw [hp] at hok
    cases hok
  · rw [hp] at hknown
    rw [hq] at hunknown
    exact ⟨p, q, hp, hq, hsame, Except.ok.inj hknown, Except.ok.inj hunknown⟩

end Bindery
