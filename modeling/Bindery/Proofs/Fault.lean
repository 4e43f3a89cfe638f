import Bindery.Proofs.Marker
import Bindery.Proofs.Visit
import Mathlib.Data.List.Induction

/-!
# Which declarations are faulty

Whether a declaration gets a binding is seen from the declaration alone, from how many blocks of
documentation there are and from how unions are bound: handles declared before it, a comment that
waits and the module it goes to do not matter. So the reports of a run are those of its faulty
declarations one by one.
-/

namespace Bindery

/-- A name that is not the library's: it lacks the beginning and is not the one exception. -/
def IsForeign (name : Text) : Prop :=
  ¬ libraryLead <+: name ∧ name ≠ Text.ofString "getLineSpacing"

/-- A record with a field that cannot be referred to and is not left out by its type. -/
def Record.HasUnnamedField (r : Record) : Prop :=
  ∃ p ∈ r.fields, p.name = none ∧ p.type ≠ tagType

/-- The faults of declarations, where there are `size` blocks of documentation. -/
inductive Faulty (size : Nat) (mode : UnionMode) : Declaration → BindingFault → Prop where
  /-- A function has a foreign name. -/
  | function {s : Signature} (h : IsForeign s.name) :
    Faulty size mode (.function s) (.foreignName s.name)
  /-- A callback has a foreign name. -/
  | callback {s : Signature} (h : IsForeign s.name) :
    Faulty size mode (.callback s) (.foreignName s.name)
  /-- A handle has a foreign name. -/
  | handle {name : Text} (h : IsForeign name) :
    Faulty size mode (.handle name) (.foreignName name)
  /-- A named enumeration has a foreign name. -/
  | enumeration {name : Text} {items : List Enumerator} (h : IsForeign name) :
    Faulty size mode (.enumeration (some name) (some items)) (.foreignName name)
  /-- A nameless enumeration has a member with a foreign name; the first one is reported. -/
  | constants {before after : List Enumerator} {e : Enumerator}
    (hbefore : ∀ e' ∈ before, ¬ IsForeign e'.name) (h : IsForeign e.name) :
    Faulty size mode (.enumeration none (some (before ++ e :: after))) (.foreignName e.name)
  /-- A union that is defined elsewhere has a foreign name. -/
  | included {r : Record} (hmode : mode = .included) (hr : r.name ≠ sharedRecord)
    (h : IsForeign r.name) : Faulty size mode (.union r) (.foreignName r.name)
  /-- A structure has an unnamed field. -/
  | struct {r : Record} (hr : r.name ≠ sharedRecord) (h : r.HasUnnamedField) :
    Faulty size mode (.struct r) (.unnamedField r.name)
  /-- A union that becomes an object has an unnamed field. -/
  | union {r : Record} (hmode : mode = .object) (hr : r.name ≠ sharedRecord)
    (h : r.HasUnnamedField) : Faulty size mode (.union r) (.unnamedField r.name)
  /-- A marker asks for a block that is not there. -/
  | block {name : Text} {number : Nat} (h : Marker.AsksFor name number)
    (hnumber : number = 0 ∨ size < number) :
    Faulty size mode (.enumeration (some name) none) (.missingBlock number size)
  /-- A marker asks for no block and names no module. -/
  | marker {name : Text} (hblock : ∀ number, ¬ Marker.AsksFor name number)
    (hmodule : ∀ key, ¬ Marker.NamesModule name key) :
    Faulty size mode (.enumeration (some name) none) (.unknownMarker name)
  /-- An enumeration has neither a name nor members. -/
  | empty : Faulty size mode (.enumeration none none) .emptyEnumeration

theorem bareName?_eq_none_iff {name : Text} : bareName? name = none ↔ IsForeign name := by
  have hlead : Text.after? libraryLead name = none ↔ ¬ libraryLead <+: name := by
    rw [Option.eq_none_iff_forall_ne_some]
    constructor
    · rintro h ⟨rest, he⟩
      exact h rest (Text.after?_eq_some_iff.mpr he.symm)
    · intro h rest hrest
      exact h ⟨rest, (Text.after?_eq_some_iff.mp hrest).symm⟩
  unfold bareName? IsForeign unmarkedNames
  rw [List.lookup_cons]
  by_cases hname : name = Text.ofString "getLineSpacing"
  · simp [hname]
  · have hb : (name == Text.ofString "getLineSpacing") = false := by simp [hname]
    simp only [hb, List.lookup_nil, hlead, hname, ne_eq, not_false_eq_true, and_true]

/-- A name is refused exactly when it is foreign. -/
theorem bareName_eq_error_iff_isForeign {name : Text} {fault : BindingFault} :
    bareName name = .error fault ↔ IsForeign name ∧ fault = .foreignName name := by
  rw [bareName_eq_error_iff, bareName?_eq_none_iff]

/-- What is done with something that was found does not fail. -/
theorem bind_eq_error_iff {e : Except ε α} {f : α → Except ε β} {fault : ε}
    (hf : ∀ x, e = .ok x → ∃ y, f x = .ok y) : (e >>= f) = .error fault ↔ e = .error fault := by
  cases e with
  | error fault' =>
    constructor <;>
    · intro h
      cases h
      rfl
  | ok x =>
    obtain ⟨y, hy⟩ := hf x rfl
    change f x = _ ↔ _
    rw [hy]
    exact ⟨nofun, nofun⟩

/-- A list of things that may fail fails with the first of them that does. -/
theorem mapM_eq_error_iff {f : α → Except ε β} {xs : List α} {fault : ε} :
    xs.mapM f = .error fault ↔ ∃ before x after, xs = before ++ x :: after ∧
      (∀ y ∈ before, ∃ z, f y = .ok z) ∧ f x = .error fault := by
  induction xs with
  | nil => exact ⟨nofun, fun ⟨before, x, after, h, _⟩ => by simp at h⟩
  | cons x xs ih =>
    rw [List.mapM_cons]
    cases hx : f x with
    | error fault' =>
      constructor
      · intro h
        cases h
        exact ⟨[], x, xs, rfl, nofun, hx⟩
      · rintro ⟨before, y, after, he, hbefore, hy⟩
        cases before with
        | nil =>
          cases he
          rw [← hx, hy]
          rfl
        | cons z before =>
          cases he
          obtain ⟨w, hw⟩ := hbefore _ List.mem_cons_self
          rw [hx] at hw
          cases hw
    | ok z =>
      have hbind : (xs.mapM f >>= fun zs => pure (z :: zs)) = .error fault ↔
          xs.mapM f = .error fault := bind_eq_error_iff fun zs _ => ⟨z :: zs, rfl⟩
      refine hbind.trans (ih.trans ?_)
      constructor
      · rintro ⟨before, y, after, rfl, hbefore, hy⟩
        refine ⟨x :: before, y, after, rfl, ?_, hy⟩
        intro w hw
        rcases List.mem_cons.mp hw with rfl | hw
        · exact ⟨z, hx⟩
        · exact hbefore w hw
      · rintro ⟨before, y, after, he, hbefore, hy⟩
        cases before with
        | nil =>
          cases he
          rw [hx] at hy
          cases hy
        | cons w before =>
          cases he
          exact ⟨before, y, after, rfl, fun v hv => hbefore v (List.mem_cons_of_mem _ hv), hy⟩

/-- A list of things fails if one of them does. -/
theorem exists_mapM_eq_error {f : α → Except ε β} {xs : List α} {x : α} {fault : ε}
    (hmem : x ∈ xs) (hx : f x = .error fault) : ∃ fault', xs.mapM f = .error fault' := by
  induction xs with
  | nil => cases hmem
  | cons y xs ih =>
    rw [List.mapM_cons]
    cases hy : f y with
    | error fault' => exact ⟨fault', rfl⟩
    | ok z =>
      rcases List.mem_cons.mp hmem with rfl | hmem
      · rw [hx] at hy
        cases hy
      · obtain ⟨fault', hrest⟩ := ih hmem
        rw [hrest]
        exact ⟨fault', rfl⟩

section Bindings

variable {handles : Handles} {fault : BindingFault}

/-- Of a function only the name can be refused. -/
theorem bindFunction_eq_error_iff {s : Signature} :
    bindFunction handles s = .error fault ↔ IsForeign s.name ∧ fault = .foreignName s.name :=
  calc
    bindFunction handles s = .error fault ↔ procedureOf handles s = .error fault :=
      bind_eq_error_iff fun _ _ => ⟨_, rfl⟩
    _ ↔ methodName handles s.name (effectiveParams s.params) = .error fault :=
      bind_eq_error_iff fun _ _ => ⟨_, rfl⟩
    _ ↔ bareName s.name = .error fault := bind_eq_error_iff fun _ _ => ⟨_, rfl⟩
    _ ↔ IsForeign s.name ∧ fault = .foreignName s.name := bareName_eq_error_iff_isForeign

/-- Of a callback only the name can be refused. -/
theorem bindCallback_eq_error_iff {s : Signature} :
    bindCallback handles s = .error fault ↔ IsForeign s.name ∧ fault = .foreignName s.name :=
  (bind_eq_error_iff fun _ _ => ⟨_, rfl⟩).trans bareName_eq_error_iff_isForeign

/-- Of a named enumeration only the name can be refused. -/
theorem bindEnumeration_eq_error_iff {name : Text} {items : List Enumerator} :
    bindEnumeration name items = .error fault ↔ IsForeign name ∧ fault = .foreignName name :=
  (bind_eq_error_iff fun _ _ => ⟨_, rfl⟩).trans bareName_eq_error_iff_isForeign

/-- Of a constant only the name can be refused. -/
theorem constantLine_eq_error_iff {e : Enumerator} :
    constantLine e = .error fault ↔ IsForeign e.name ∧ fault = .foreignName e.name :=
  (bind_eq_error_iff fun _ _ => ⟨_, rfl⟩).trans bareName_eq_error_iff_isForeign

/-- A nameless enumeration is refused for its first member with a foreign name. -/
theorem bindConstants_eq_error_iff {items : List Enumerator} :
    bindConstants items = .error fault ↔ ∃ before e after, items = before ++ e :: after ∧
      (∀ e' ∈ before, ¬ IsForeign e'.name) ∧ IsForeign e.name ∧ fault = .foreignName e.name := by
  have hok : ∀ e, (∃ line, constantLine e = .ok line) ↔ ¬ IsForeign e.name := by
    intro e
    constructor
    · rintro ⟨line, hline⟩ hforeign
      rw [constantLine_eq_error_iff.mpr ⟨hforeign, rfl⟩] at hline
      cases hline
    · intro hname
      cases h : constantLine e with
      | error fault => exact absurd (constantLine_eq_error_iff.mp h).1 hname
      | ok line => exact ⟨line, rfl⟩
  refine (bind_eq_error_iff fun _ _ => ⟨_, rfl⟩).trans (mapM_eq_error_iff.trans ?_)
  simp only [hok, constantLine_eq_error_iff]

theorem fieldLine_eq_error_iff {record : Text} {p : Param} :
    fieldLine handles record p = .error fault ↔
      p.name = none ∧ fault = .unnamedField record := by
  unfold fieldLine
  cases p.name <;> simp [eq_comm]

/-- A record that becomes an object is refused for an unnamed field. -/
theorem bindObject_eq_error_iff {pragmas : Text} {r : Record} :
    bindObject handles pragmas r = .error fault ↔
      r.HasUnnamedField ∧ fault = .unnamedField r.name := by
  refine (bind_eq_error_iff fun _ _ => ⟨_, rfl⟩).trans ?_
  constructor
  · intro h
    obtain ⟨before, p, after, he, _, hp⟩ := mapM_eq_error_iff.mp h
    obtain ⟨hname, hfault⟩ := fieldLine_eq_error_iff.mp hp
    have hmem : p ∈ r.fields.filter (·.type ≠ tagType) := by
      rw [he]
      exact List.mem_append_right before List.mem_cons_self
    obtain ⟨hfield, htype⟩ := List.mem_filter.mp hmem
    exact ⟨⟨p, hfield, hname, of_decide_eq_true htype⟩, hfault⟩
  · rintro ⟨⟨p, hfield, hname, htype⟩, rfl⟩
    have hmem : p ∈ r.fields.filter (·.type ≠ tagType) :=
      List.mem_filter.mpr ⟨hfield, decide_eq_true htype⟩
    have hline : fieldLine handles r.name p = .error (.unnamedField r.name) :=
      fieldLine_eq_error_iff.mpr ⟨hname, rfl⟩
    obtain ⟨fault, h⟩ := exists_mapM_eq_error hmem hline
    obtain ⟨_, _, _, _, _, hp⟩ := mapM_eq_error_iff.mp h
    rw [h, (fieldLine_eq_error_iff.mp hp).2]

/-- A structure is refused for an unnamed field, unless it is known by another name. -/
theorem bindStruct_eq_error_iff {r : Record} :
    bindStruct handles r = .error fault ↔
      r.name ≠ sharedRecord ∧ r.HasUnnamedField ∧ fault = .unnamedField r.name := by
  unfold bindStruct
  by_cases hr : r.name = sharedRecord
  · simp [hr]
  · simp only [hr, if_false, bindObject_eq_error_iff, ne_eq, not_false_eq_true, true_and]

/-- A union is refused as the object that it becomes, or for the name of its definition. -/
theorem bindUnion_eq_error_iff {mode : UnionMode} {r : Record} :
    bindUnion handles mode r = .error fault ↔ r.name ≠ sharedRecord ∧
      (mode = .object ∧ r.HasUnnamedField ∧ fault = .unnamedField r.name ∨
        mode = .included ∧ IsForeign r.name ∧ fault = .foreignName r.name) := by
  unfold bindUnion
  by_cases hr : r.name = sharedRecord
  · simp [hr]
  · cases mode with
    | object => simp [hr, bindObject_eq_error_iff]
    | included =>
      rw [if_neg hr]
      refine (bind_eq_error_iff fun _ _ => ⟨_, rfl⟩).trans ?_
      rw [bareName_eq_error_iff_isForeign]
      simp [hr]

end Bindings

/-- A marker is refused for a block that is not there, or where it says nothing. -/
theorem ofMarker_eq_error_iff {corpus : Corpus} {name : Text} {fault : BindingFault} :
    (Marker.ofName name >>= Meaning.ofMarker corpus) = .error fault ↔
      (∃ number, Marker.AsksFor name number ∧ (number = 0 ∨ corpus.size < number) ∧
        fault = .missingBlock number corpus.size) ∨
      (∀ number, ¬ Marker.AsksFor name number) ∧ (∀ key, ¬ Marker.NamesModule name key) ∧
        fault = .unknownMarker name := by
  unfold Marker.ofName
  simp only [← Marker.blockNumber?_eq_some_iff, ← Marker.moduleName?_eq_some_iff]
  cases Marker.blockNumber? name with
  | some number =>
    refine Iff.trans (b := corpus.block number = .error fault)
      (bind_eq_error_iff fun _ _ => ⟨_, rfl⟩) ?_
    rw [Corpus.block_eq_error_iff]
    simp
  | none =>
    cases Marker.moduleName? name with
    | some key => simp [bind, Except.bind, Meaning.ofMarker]
    | none => simp [bind, Except.bind, eq_comm]

/-- Only faulty declarations have no meaning, whatever was declared before them. -/
theorem ofDeclaration_eq_error_iff {corpus : Corpus} {mode : UnionMode} {handles : Handles}
    {d : Declaration} {fault : BindingFault} :
    Meaning.ofDeclaration corpus mode handles d = .error fault ↔
      Faulty corpus.size mode d fault := by
  cases d with
  | function s =>
    refine (bind_eq_error_iff fun _ _ => ⟨_, rfl⟩).trans (bindFunction_eq_error_iff.trans ?_)
    constructor
    · rintro ⟨h, rfl⟩
      exact .function h
    · intro h
      cases h with
      | function h => exact ⟨h, rfl⟩
  | callback s =>
    refine (bind_eq_error_iff fun _ _ => ⟨_, rfl⟩).trans (bindCallback_eq_error_iff.trans ?_)
    constructor
    · rintro ⟨h, rfl⟩
      exact .callback h
    · intro h
      cases h with
      | callback h => exact ⟨h, rfl⟩
  | «alias» name target => exact ⟨nofun, nofun⟩
  | enumeration name items =>
    cases name with
    | none =>
      cases items with
      | none =>
        constructor
        · intro h
          cases h
          exact .empty
        · intro h
          cases h with
          | empty => rfl
      | some items =>
        refine (bind_eq_error_iff fun _ _ => ⟨_, rfl⟩).trans (bindConstants_eq_error_iff.trans ?_)
        constructor
        · rintro ⟨before, e, after, rfl, hbefore, h, rfl⟩
          exact .constants hbefore h
        · intro h
          cases h with
          | constants hbefore h => exact ⟨_, _, _, rfl, hbefore, h, rfl⟩
    | some name =>
      cases items with
      | none =>
        refine Iff.trans ofMarker_eq_error_iff ?_
        constructor
        · rintro (⟨number, h, hnumber, rfl⟩ | ⟨hblock, hmodule, rfl⟩)
          · exact .block h hnumber
          · exact .marker hblock hmodule
        · intro h
          cases h with
          | block h hnumber => exact Or.inl ⟨_, h, hnumber, rfl⟩
          | marker hblock hmodule => exact Or.inr ⟨hblock, hmodule, rfl⟩
      | some items =>
        refine (bind_eq_error_iff fun _ _ => ⟨_, rfl⟩).trans (bindEnumeration_eq_error_iff.trans ?_)
        constructor
        · rintro ⟨h, rfl⟩
          exact .enumeration h
        · intro h
          cases h with
          | enumeration h => exact ⟨h, rfl⟩
  | struct r =>
    refine (bind_eq_error_iff fun _ _ => ⟨_, rfl⟩).trans (bindStruct_eq_error_iff.trans ?_)
    constructor
    · rintro ⟨hr, h, rfl⟩
      exact .struct hr h
    · intro h
      cases h with
      | struct hr h => exact ⟨hr, h, rfl⟩
  | union r =>
    refine (bind_eq_error_iff fun _ _ => ⟨_, rfl⟩).trans (bindUnion_eq_error_iff.trans ?_)
    constructor
    · rintro ⟨hr, ⟨hmode, h, rfl⟩ | ⟨hmode, h, rfl⟩⟩
      · exact .union hmode hr h
      · exact .included hmode hr h
    · intro h
      cases h with
      | included hmode hr h => exact ⟨hr, Or.inr ⟨hmode, h, rfl⟩⟩
      | union hmode hr h => exact ⟨hr, Or.inl ⟨hmode, h, rfl⟩⟩
  | handle name =>
    -- The name is looked at twice, and the second look cannot fail any more.
    have hsecond : ∀ bare, bareName name = .ok bare →
        ∃ meaning, (do return .handle bare (← bindHandle name) : Except BindingFault Meaning) =
          .ok meaning := by
      intro bare hbare
      rw [bindHandle, hbare]
      exact ⟨_, rfl⟩
    refine (bind_eq_error_iff hsecond).trans (bareName_eq_error_iff_isForeign.trans ?_)
    constructor
    · rintro ⟨h, rfl⟩
      exact .handle h
    · intro h
      cases h with
      | handle h => exact ⟨h, rfl⟩

namespace Declaration

/-- The fault of a declaration, found before any handle and on blocks of documentation that say
nothing. -/
def fault? (size : Nat) (mode : UnionMode) (d : Declaration) : Option BindingFault :=
  match Meaning.ofDeclaration ⟨List.replicate size []⟩ mode [] d with
  | .error fault => some fault
  | .ok _ => none

/-- The fault that is found is the one that the declaration has. -/
theorem fault?_eq_some_iff {size : Nat} {mode : UnionMode} {d : Declaration}
    {fault : BindingFault} : d.fault? size mode = some fault ↔ Faulty size mode d fault := by
  have hsize : (⟨List.replicate size []⟩ : Corpus).size = size := List.length_replicate
  have hmeaning : Meaning.ofDeclaration ⟨List.replicate size []⟩ mode [] d = .error fault ↔
      Faulty size mode d fault := by
    rw [ofDeclaration_eq_error_iff, hsize]
  rw [← hmeaning, fault?]
  cases Meaning.ofDeclaration ⟨List.replicate size []⟩ mode [] d <;> simp

/-- The fault of a declaration is the one that its meaning is refused for in any run. -/
theorem fault?_eq_some_iff_ofDeclaration {corpus : Corpus} {mode : UnionMode}
    {handles : Handles} {d : Declaration} {fault : BindingFault} :
    d.fault? corpus.size mode = some fault ↔
      Meaning.ofDeclaration corpus mode handles d = .error fault :=
  fault?_eq_some_iff.trans ofDeclaration_eq_error_iff.symm

/-- A declaration without a fault has a meaning in any run. -/
theorem exists_ofDeclaration {corpus : Corpus} {mode : UnionMode} {d : Declaration}
    (h : d.fault? corpus.size mode = none) (handles : Handles) :
    ∃ meaning, Meaning.ofDeclaration corpus mode handles d = .ok meaning := by
  cases hd : Meaning.ofDeclaration corpus mode handles d with
  | ok meaning => exact ⟨meaning, rfl⟩
  | error fault =>
    rw [fault?_eq_some_iff_ofDeclaration.mpr hd] at h
    cases h

end Declaration

/-- The reports of the faulty ones of some declarations, in order. -/
def reports (size : Nat) (mode : UnionMode) (ls : List Located) : List Diagnostic :=
  ls.filterMap fun l => (l.declaration.fault? size mode).map (·.diagnostic l)

/-- A visit adds the report of the declaration if it is faulty, and none otherwise. -/
theorem Generation.diagnostics_visit {corpus : Corpus} {mode : UnionMode} {g : Generation}
    {l : Located} : (g.visit corpus mode l).diagnostics =
      g.diagnostics ++ reports corpus.size mode [l] := by
  cases h : l.declaration.fault? corpus.size mode with
  | some fault =>
    rw [visit_of_error (Declaration.fault?_eq_some_iff_ofDeclaration.mp h)]
    simp [reports, h]
  | none =>
    obtain ⟨meaning, hmeaning⟩ := Declaration.exists_ofDeclaration h g.context.handles
    rw [visit_of_ok hmeaning]
    simp [reports, h]

/-- A run reports its faulty declarations. -/
theorem diagnostics_generate {corpus : Corpus} {options : GenerationOptions}
    {ls : List Located} : (generate corpus options ls).diagnostics =
      reports corpus.size options.unionMode ls := by
  induction ls using List.reverseRecOn with
  | nil => rfl
  | append_singleton ls l ih =>
    rw [generate_concat, Generation.diagnostics_visit, ih, reports, reports, reports,
      List.filterMap_append]

/-- A report is a mere warning exactly where a name is foreign. -/
theorem severity_diagnostic_eq_warning_iff {fault : BindingFault} {l : Located} :
    (fault.diagnostic l).severity = .warning ↔ ∃ name, fault = .foreignName name := by
  have hlocate : ∀ (d : Diagnostic) (place : Span), (d.locate place).severity = d.severity := by
    intro d place
    unfold Diagnostic.locate
    cases place.nonempty? <;> rfl
  unfold BindingFault.diagnostic
  rw [hlocate]
  cases fault <;> simp

/-- There is one report for every faulty declaration, in the order of the declarations. Whether a
declaration is refused, and why, does not depend on the declarations before it, and a report is a
mere warning exactly where a name is foreign. -/
theorem generate_reports_faulty (corpus : Corpus) (options : GenerationOptions)
    (ls : List Located) :
    (generate corpus options ls).diagnostics = ls.filterMap (fun l =>
      (l.declaration.fault? corpus.size options.unionMode).map (·.diagnostic l)) ∧
    (∀ (d : Declaration) (fault : BindingFault),
      d.fault? corpus.size options.unionMode = some fault ↔
        Faulty corpus.size options.unionMode d fault) ∧
    (∀ (before : List Located) (l : Located) (fault : BindingFault),
      (generate corpus options before).outcome corpus options.unionMode l = .error fault ↔
        Faulty corpus.size options.unionMode l.declaration fault) ∧
    (∀ (l : Located) (fault : BindingFault),
      (fault.diagnostic l).severity = .warning ↔ ∃ name, fault = .foreignName name) := by
  refine ⟨diagnostics_generate, fun d fault => Declaration.fault?_eq_some_iff, ?_, ?_⟩
  · intro before l fault
    rw [Generation.outcome_eq_error_iff, ofDeclaration_eq_error_iff]
  · intro l fault
    exact severity_diagnostic_eq_warning_iff

end Bindery
