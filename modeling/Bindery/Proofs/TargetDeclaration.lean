import Bindery.Proofs.Fault
import Bindery.Proofs.Signs

/-!
# Declarations of the target language

A function, a callback, a structure or a union becomes a declaration of the target language, which
has names and types in it. The binding is that declaration in writing, so that what holds of the
names and the types holds of what is emitted.
-/

namespace Bindery

/-- Something that has a name and a type. -/
structure TypedName where
  /-- The name. -/
  name : Text
  /-- The type. -/
  type : Text
  deriving DecidableEq, Repr

/-- A declaration of the target language with types in it. -/
inductive TargetDeclaration where
  /-- A procedure, in all its forms. -/
  | procedure (head : ProcedureHead) (params : List BoundParam)
  /-- A type of procedures. -/
  | callback (name : Text) (params : List TypedName) (result : Text)
  /-- An object. -/
  | object (name pragmas : Text) (fields : List TypedName)
  deriving DecidableEq, Repr

/-- A parameter of a callback in writing. -/
def TypedName.paramText (p : TypedName) : Text := p.name ++ ": " ++ p.type

/-- A field in writing. -/
def TypedName.fieldText (p : TypedName) : Text := "  " ++ p.name ++ "*: " ++ p.type

/-- A declaration of the target language in writing. -/
def TargetDeclaration.binding : TargetDeclaration → Binding
  | procedure head params => .procedure (head.forms params)
  | callback name params result =>
    .plain ["type " ++ name ++ "* = proc(" ++
      List.intercalate "; " (params.map TypedName.paramText) ++ "): " ++ result ++
        " \x7b.cdecl.\x7d"]
  | object name pragmas fields =>
    .object ("type " ++ name ++ "* \x7b." ++ pragmas ++ ".\x7d = object")
      (fields.map TypedName.fieldText)

/-- The fields of a record that are not left out. -/
def Record.keptFields (r : Record) : List Param := r.fields.filter (·.type ≠ tagType)

/-- A parameter of a callback in the target language. -/
def callbackPart (handles : Handles) (i : Nat) (p : Param) : TypedName :=
  ⟨p.name.getD (placeName i), typeName handles [] p.type⟩

/-- A field in the target language, if it has a name. -/
def fieldPart? (handles : Handles) (p : Param) : Option TypedName :=
  p.name.map fun name => ⟨name, fieldType handles name p.type⟩

/-- A record in the target language. -/
def Record.target (handles : Handles) (pragmas : Text) (r : Record) : TargetDeclaration :=
  .object (typeName handles [] r.name) pragmas (r.keptFields.filterMap (fieldPart? handles))

namespace Declaration

/-- What a declaration becomes in the target language, if it has types in it there. -/
def target? (handles : Handles) (mode : UnionMode) : Declaration → Option TargetDeclaration
  | function s => (procedureOf handles s).toOption.map fun p => .procedure p.1 p.2
  | callback s => (bareName? s.name).map fun name =>
      .callback name (s.params.zipIdx.map fun p => callbackPart handles p.2 p.1)
        (typeName handles [] s.result)
  | struct r => if r.name = sharedRecord then none else some (r.target handles "bycopy")
  | union r =>
    if r.name = sharedRecord ∨ mode = .included then none
    else some (r.target handles "union, bycopy")
  | _ => none

/-- Whether a declaration has types in it when it is bound: a function, a callback, or a record that
becomes an object. -/
def IsTyped (mode : UnionMode) : Declaration → Prop
  | function _ | callback _ => True
  | struct r => r.name ≠ sharedRecord
  | union r => mode = .object ∧ r.name ≠ sharedRecord
  | _ => False

instance (mode : UnionMode) : (d : Declaration) → Decidable (d.IsTyped mode)
  | function _ | callback _ => inferInstanceAs (Decidable True)
  | struct r => inferInstanceAs (Decidable (r.name ≠ sharedRecord))
  | union r => inferInstanceAs (Decidable (mode = .object ∧ r.name ≠ sharedRecord))
  | «alias» _ _ | enumeration _ _ | handle _ => inferInstanceAs (Decidable False)

end Declaration

section Targets

variable {handles : Handles} {mode : UnionMode}

/-- The fields of an object are those that have a name, and all have one. -/
theorem eq_map_of_mapM_fieldLine {record : Text} {fields : List Param} {lines : List Text}
    (h : fields.mapM (fieldLine handles record) = .ok lines) :
    lines = (fields.filterMap (fieldPart? handles)).map TypedName.fieldText := by
  induction fields generalizing lines with
  | nil =>
    cases h
    rfl
  | cons p fields ih =>
    rw [List.mapM_cons] at h
    obtain ⟨line, hline, h⟩ := exists_of_bind_eq_ok h
    obtain ⟨rest, hrest, h⟩ := exists_of_bind_eq_ok h
    cases h
    unfold fieldLine at hline
    split at hline
    · next name hname =>
      cases hline
      have hpart : fieldPart? handles p = some ⟨name, fieldType handles name p.type⟩ := by
        rw [fieldPart?, hname]
        rfl
      rw [List.filterMap_cons_some hpart, List.map_cons, ← ih hrest]
      rfl
    · cases hline

theorem bindObject_eq_target {pragmas : Text} {r : Record} {b : Binding}
    (h : bindObject handles pragmas r = .ok b) : b = (r.target handles pragmas).binding := by
  obtain ⟨lines, hlines, h⟩ := exists_of_bind_eq_ok h
  cases h
  exact congrArg _ (eq_map_of_mapM_fieldLine hlines)

/-- **What a declaration with types becomes is written.** -/
theorem exists_target {corpus : Corpus} {d : Declaration} {meaning : Meaning}
    (hmeaning : Meaning.ofDeclaration corpus mode handles d = .ok meaning)
    (htyped : d.IsTyped mode) :
    ∃ t, d.target? handles mode = some t ∧ meaning = .binding t.binding := by
  cases d with
  | function s =>
    obtain ⟨b, hb, hmeaning⟩ := exists_of_bind_eq_ok hmeaning
    cases hmeaning
    obtain ⟨p, hp, hb⟩ := exists_of_bind_eq_ok hb
    cases hb
    exact ⟨.procedure p.1 p.2, by rw [Declaration.target?, hp]; rfl, rfl⟩
  | callback s =>
    obtain ⟨b, hb, hmeaning⟩ := exists_of_bind_eq_ok hmeaning
    cases hmeaning
    obtain ⟨name, hname, hb⟩ := exists_of_bind_eq_ok hb
    cases hb
    unfold bareName at hname
    split at hname
    · next bare hbare =>
      cases hname
      refine ⟨_, by rw [Declaration.target?, hbare]; rfl, ?_⟩
      rw [TargetDeclaration.binding, List.map_map]
      rfl
    · cases hname
  | struct r =>
    obtain ⟨b, hb, hmeaning⟩ := exists_of_bind_eq_ok hmeaning
    cases hmeaning
    rw [bindStruct, if_neg htyped] at hb
    exact ⟨_, if_neg htyped, congrArg _ (bindObject_eq_target hb)⟩
  | union r =>
    obtain ⟨b, hb, hmeaning⟩ := exists_of_bind_eq_ok hmeaning
    cases hmeaning
    obtain ⟨rfl, hname⟩ := htyped
    rw [bindUnion, if_neg hname] at hb
    have htarget : ¬ (r.name = sharedRecord ∨ UnionMode.object = .included) := by simp [hname]
    exact ⟨_, if_neg htarget, congrArg _ (bindObject_eq_target hb)⟩
  | «alias» name target => exact htyped.elim
  | enumeration name items => exact htyped.elim
  | handle name => exact htyped.elim

/-- A function becomes the procedure that is found for it. -/
theorem target?_function_eq_some_iff {s : Signature} {t : TargetDeclaration} :
    (Declaration.function s).target? handles mode = some t ↔
      ∃ p, procedureOf handles s = .ok p ∧ TargetDeclaration.procedure p.1 p.2 = t := by
  rw [Declaration.target?]
  cases procedureOf handles s <;> simp [Except.toOption]

/-- All fields of a record that is bound have a name, but for those that are left out. -/
theorem name_ne_none_of_ofDeclaration {corpus : Corpus} {d : Declaration} {meaning : Meaning}
    (hmeaning : Meaning.ofDeclaration corpus mode handles d = .ok meaning)
    (htyped : d.IsTyped mode) {r : Record} (hd : d = .struct r ∨ d = .union r) :
    ∀ p ∈ r.keptFields, p.name ≠ none := by
  intro p hp hname
  obtain ⟨hfield, htype⟩ := List.mem_filter.mp hp
  have hunnamed : r.HasUnnamedField := ⟨p, hfield, hname, of_decide_eq_true htype⟩
  have hfault : ∃ fault, Faulty corpus.size mode d fault := by
    rcases hd with rfl | rfl
    · exact ⟨_, .struct htyped hunnamed⟩
    · exact ⟨_, .union htyped.1 htyped.2 hunnamed⟩
  obtain ⟨fault, hfault⟩ := hfault
  rw [ofDeclaration_eq_error_iff.mpr hfault] at hmeaning
  cases hmeaning

/-- A parameter of a procedure is made of one of its function. -/
theorem mem_procedureNamed {s : Signature} {method : Text} {b : BoundParam} :
    b ∈ (procedureNamed handles s method).2 ↔
      ∃ k p, (effectiveParams s.params)[k]? = some p ∧ bindParam handles s.name k p = b := by
  rw [List.mem_iff_getElem?]
  refine exists_congr fun k => ?_
  rw [getElem?_procedureNamed, Option.map_eq_some_iff]

/-- The parameters that a call has are the declared ones, but for one of no type. -/
theorem mem_effectiveParams_or {params : List Param} {p : Param} (h : p ∈ params) :
    p ∈ effectiveParams params ∨ p = ⟨Text.ofString "void", none⟩ := by
  unfold effectiveParams
  split
  · next type =>
    rw [List.mem_singleton] at h
    split
    · next hvoid => exact Or.inr (h.trans (by rw [hvoid]))
    · exact Or.inl (List.mem_singleton.mpr h)
  · exact Or.inl h

/-- A parameter of a callback in the target language is made of one of the callback. -/
theorem mem_callbackParts {params : List Param} {q : TypedName} :
    q ∈ params.zipIdx.map (fun p => callbackPart handles p.2 p.1) ↔
      ∃ k p, params[k]? = some p ∧ callbackPart handles k p = q := by
  constructor
  · intro h
    obtain ⟨⟨p, k⟩, hp, rfl⟩ := List.mem_map.mp h
    exact ⟨k, p, List.mem_zipIdx_iff_getElem?.mp hp, rfl⟩
  · rintro ⟨k, p, hp, rfl⟩
    exact List.mem_map.mpr ⟨(p, k), List.mem_zipIdx_iff_getElem?.mpr hp, rfl⟩

/-- A field in the target language is made of one that is not left out. -/
theorem mem_fieldParts {fields : List Param} {q : TypedName} :
    q ∈ fields.filterMap (fieldPart? handles) ↔
      ∃ p ∈ fields, ∃ name ∈ p.name, (⟨name, fieldType handles name p.type⟩ : TypedName) = q := by
  simp only [List.mem_filterMap, fieldPart?, Option.map_eq_some_iff, Option.mem_def]

end Targets

end Bindery
