import Bindery.Proofs.EnumerationReading
import Bindery.Proofs.Form
import Bindery.Proofs.Meaning
import Bindery.Proofs.Origin

/-!
# Signs in bindings

A rare sign, such as a quotation mark or a line end, stands in a binding only where a name, a type
or a value of the declaration has it, or where the binding has it itself: between the two lines of
a foreign declaration, around the foreign name, and between the lines of an adapter and those of
members.
-/

namespace Bindery

/-- The texts of a parameter or a field. -/
def Param.texts (p : Param) : List Text := p.type :: p.name.toList

/-- The texts of a function or a callback. -/
def Signature.texts (s : Signature) : List Text :=
  s.name :: s.result :: s.params.flatMap Param.texts

/-- The texts of a member of an enumeration. -/
def Enumerator.texts (e : Enumerator) : List Text := e.name :: e.value.toList

/-- The texts of a record. -/
def Record.texts (r : Record) : List Text := r.name :: r.fields.flatMap Param.texts

/-- All names, types and values of a declaration. -/
def Declaration.texts : Declaration → List Text
  | function s | callback s => s.texts
  | «alias» name target => [name, target]
  | enumeration name items => name.toList ++ (items.getD []).flatMap Enumerator.texts
  | struct r | union r => r.texts
  | handle name => [name]

/-- None of some signs stands in a name, a type or a value of a header. -/
def Avoids (signs : Text) (ls : List Located) : Prop :=
  ∀ l ∈ ls, ∀ t ∈ l.declaration.texts, ∀ c ∈ signs, c ∉ t

instance (signs : Text) (ls : List Located) : Decidable (Avoids signs ls) :=
  decidable_of_iff
    (ls.all fun l => l.declaration.texts.all fun t => signs.all fun c => !t.contains c)
    (by simp [Avoids])

variable {c : Char}

/-- A sign stands in no name and no type of a procedure. -/
structure LacksSign (c : Char) (p : ProcedureHead × List BoundParam) : Prop where
  /-- It does not stand in the name. -/
  name : c ∉ p.1.name
  /-- It does not stand in the type of the result. -/
  result : ∀ type, p.1.result = some type → c ∉ type
  /-- It does not stand in the name of a parameter. -/
  paramName : ∀ q ∈ p.2, c ∉ q.name
  /-- It does not stand in the type of a parameter. -/
  paramType : ∀ q ∈ p.2, c ∉ q.type

/-- What bindings write themselves has no rare sign, line ends and the marks around a foreign name
apart. -/
theorem hasNoRareSign_written : HasNoRareSign
    (Text.ofString "ptr " ++ wideTextType ++ flagsType ++ runeType ++ Text.ofString "proc " ++
      Text.ofString "`" ++ Text.ofString "=`" ++ ['*', '(', ')', 'C'] ++ Text.ofString ": " ++
      Text.ofString ", " ++ Text.ofString "(" ++ Text.ofString ")\x7blvalue\x7d" ++
      Text.ofString " =" ++ Text.ofString "  (" ++ Text.ofString "; " ++ Text.ofString "var " ++
      Text.ofString " = " ++ Text.ofString "  " ++ Text.ofString "type " ++
      Text.ofString "* = proc(" ++ Text.ofString "): " ++ Text.ofString " \x7b.cdecl.\x7d" ++
      Text.ofString "* = " ++ Text.ofString "const" ++ Text.ofString "* \x7b." ++
      Text.ofString ".\x7d = object" ++ Text.ofString "* = ptr object" ++ Text.ofString "*: " ++
      Text.ofString "include union_" ++ Text.ofString "bycopy" ++ Text.ofString "union, bycopy" ++
      Text.ofString "* \x7b.pure, size: sizeof(cint).\x7d = enum" ++ Enumerator.lineIndent ++
      [' ', '\x7b', '.', '=']) := by
  decide +kernel

section Functions

variable {handles : Handles} {s : Signature}

theorem effectiveParams_subset (params : List Param) : effectiveParams params ⊆ params := by
  unfold effectiveParams
  split
  · split
    · exact List.nil_subset _
    · exact List.Subset.refl _
  · exact List.Subset.refl _

private theorem hasNoRareSign_placeName (i : Nat) : HasNoRareSign (placeName i) := by
  intro d hd hrare
  have hcode := hrare.1
  rcases List.mem_cons.mp hd with rfl | hd
  · exact absurd hcode (by decide)
  · have hdigit := Nat.isDigit_of_mem_toDigits (by decide) (by decide) hd
    rw [Char.isDigit, Bool.and_eq_true, decide_eq_true_eq, ge_iff_le, UInt32.le_iff_toNat_le]
      at hdigit
    exact absurd (Nat.lt_of_le_of_lt hdigit.1 hcode) (by decide)

/-- The name of a parameter has its signs from the declared one. -/
theorem mem_of_mem_paramName {i : Nat} {p : Param} (hc : IsRareSign c)
    (h : c ∈ paramName i p) : ∃ name, p.name = some name ∧ c ∈ name := by
  unfold paramName at h
  split at h
  · next d rest hname =>
    obtain ⟨name, hp, hidentifier⟩ := Option.map_eq_some_iff.mp hname
    rw [← hidentifier] at h
    exact ⟨name, hp, mem_of_mem_identifierName hc.isSign h⟩
  · exact absurd hc (hasNoRareSign_placeName i c h)

/-- A type that is known by its place only is written without rare signs. -/
theorem mem_of_mem_typeInPlace {cName name type : Text} (hc : IsRareSign c)
    (h : c ∈ typeInPlace cName name type) : c ∈ type := by
  unfold typeInPlace at h
  split at h
  · exact absurd hc (hasNoRareSign_written c (by simp [h]))
  split at h
  · split at h
    · exact absurd hc (hasNoRareSign_written c (by simp [h]))
    split at h
    · exact absurd hc (hasNoRareSign_written c (by simp [h]))
    · exact h
  · exact h

theorem mem_of_mem_resultType {type : Text} (hc : IsRareSign c)
    (h : c ∈ resultType handles type) : c ∈ type := by
  rcases Text.mem_of_mem_replace h with h | h
  · exact absurd hc (hasNoRareSign_written c (by simp [h]))
  · exact mem_of_mem_typeName hc h

/-- A procedure has the foreign name as it is, and a rare sign that the function lacks stands in
none of its other names and types. -/
theorem lacksSign_of_procedureOf (hc : IsRareSign c) (hs : ∀ t ∈ s.texts, c ∉ t)
    {p : ProcedureHead × List BoundParam} (h : procedureOf handles s = .ok p) :
    p.1.symbol = s.name ∧ LacksSign c p := by
  rw [procedureOf_eq] at h
  cases hmethod : methodName handles s.name (effectiveParams s.params) with
  | error fault =>
    rw [hmethod] at h
    cases h
  | ok method =>
    rw [hmethod] at h
    cases h
    have hname : c ∉ s.name := hs _ List.mem_cons_self
    have hresult : c ∉ s.result := hs _ (List.mem_cons_of_mem _ List.mem_cons_self)
    have hparam : ∀ q ∈ (procedureNamed handles s method).2, ∃ i p, p ∈ s.params ∧
        q = bindParam handles s.name i p := by
      intro q hq
      obtain ⟨⟨p, i⟩, hmem, rfl⟩ := List.mem_map.mp hq
      exact ⟨i, p, effectiveParams_subset _ (List.fst_mem_of_mem_zipIdx hmem), rfl⟩
    have htexts : ∀ p ∈ s.params, ∀ t ∈ p.texts, c ∉ t := fun p hp t ht =>
      hs t (List.mem_cons_of_mem _ (List.mem_cons_of_mem _ (List.mem_flatMap.mpr ⟨p, hp, ht⟩)))
    refine ⟨rfl, ?_, ?_, ?_, ?_⟩
    · intro hmem
      exact hname (mem_of_mem_methodName hc.isSign hmethod (CallName.mem_of_mem_ofMethod hc.isSign
        (CallName.mem_of_mem_dropWide hc.isSign (mem_of_mem_markText hc.isSign hmem))))
    · intro type htype hmem
      simp only [procedureNamed] at htype
      split at htype
      · cases htype
      · cases htype
        exact hresult (mem_of_mem_resultType hc (mem_of_mem_typeInPlace hc hmem))
    · intro q hq hmem
      obtain ⟨i, p, hp, rfl⟩ := hparam q hq
      obtain ⟨name, hpname, hmem'⟩ := mem_of_mem_paramName hc hmem
      refine htexts p hp name ?_ hmem'
      rw [Param.texts, hpname]
      exact List.mem_cons_of_mem _ List.mem_cons_self
    · intro q hq hmem
      obtain ⟨i, p, hp, rfl⟩ := hparam q hq
      exact htexts p hp p.type List.mem_cons_self
        (mem_of_mem_typeName hc (mem_of_mem_typeInPlace hc hmem))

end Functions

/-! ## Forms -/

namespace ProcedureHead

/-- What stands before the foreign name on the line that gives it. -/
def importLead : Text := "  cdecl, importc: \""

/-- What stands behind the foreign name. -/
def importEnd : Text := "\".\x7d"

/-- The line that says which foreign procedure a form stands for. -/
def importLine (symbol : Text) : Text := importLead ++ symbol ++ importEnd

/-- The line ends where it seems to, if the foreign name does. -/
theorem lineEnd_not_mem_importLine {symbol : Text} (hc : c = '\r' ∨ c = '\n') (h : c ∉ symbol) :
    c ∉ importLine symbol := by
  have hmarks : c ∉ importLead ++ importEnd := by
    rcases hc with rfl | rfl
    · with_unfolding_all decide
    · with_unfolding_all decide
  simp only [List.mem_append, not_or] at hmarks
  simp [importLine, hmarks, h]

variable {h : ProcedureHead} {params : List BoundParam}

/-- Things on one line have no rare sign but their own. -/
theorem not_mem_enumerate (hc : IsRareSign c) {ts : List Text} (hts : ∀ t ∈ ts, c ∉ t) :
    c ∉ enumerate ts := by
  intro hmem
  rcases Text.mem_of_mem_intercalate hmem with hmem | ⟨t, ht, hmem⟩
  · exact hasNoRareSign_written c (by simp [hmem]) hc
  · exact hts t ht hmem

theorem not_mem_callee (hc : IsRareSign c) (hname : c ∉ h.name) : c ∉ h.callee := by
  have hmarks := hasNoRareSign_written.not_mem hc
  simp only [List.mem_append, List.mem_cons, List.not_mem_nil, or_false, not_or] at hmarks
  unfold callee
  split
  · simp [hmarks, hname]
  · exact hname

/-- The first line of a form has no rare sign but those of its names and types. -/
theorem not_mem_declare (hc : IsRareSign c) (hp : LacksSign c (h, params)) {t : Text}
    (ht : c ∉ t) : c ∉ h.declare t := by
  have hmarks := hasNoRareSign_written.not_mem hc
  simp only [List.mem_append, List.mem_cons, List.not_mem_nil, or_false, not_or] at hmarks
  have hcallee := not_mem_callee hc hp.name
  unfold declare
  cases hresult : h.result with
  | none =>
    cases h.exported <;> simp [hmarks, hcallee, ht]
  | some type =>
    have htype := hp.result type hresult
    cases h.exported <;> simp [hmarks, hcallee, ht, htype]

theorem not_mem_renderParam (hc : IsRareSign c) {q : BoundParam} (hname : c ∉ q.name)
    (htype : c ∉ q.type) (value : Bool) : c ∉ renderParam q value := by
  have hmarks := hasNoRareSign_written.not_mem hc
  simp only [List.mem_append, List.mem_cons, List.not_mem_nil, or_false, not_or] at hmarks
  have hdereference : c ∉ dereference q.type := fun hmem => htype (subset_dereference q.type hmem)
  unfold renderParam
  cases q.byValue <;> cases value <;> simp [hmarks, hname, htype, hdereference]

theorem not_mem_params (hc : IsRareSign c) (hp : LacksSign c (h, params)) (places : List Nat) :
    c ∉ enumerate (writtenParams params places) := by
  refine not_mem_enumerate hc ?_
  intro t ht
  obtain ⟨⟨q, i⟩, hmem, rfl⟩ := List.mem_map.mp ht
  have hq := List.fst_mem_of_mem_zipIdx hmem
  exact not_mem_renderParam hc (hp.paramName q hq) (hp.paramType q hq) _

/-- A form says first that it is a procedure. -/
theorem proc_prefix_declare (h : ProcedureHead) (params rest : Text) :
    Text.ofString "proc " <+: h.declare params ++ rest := by
  simp only [declare, List.append_assoc]
  exact List.prefix_append _ _

/-- A foreign declaration has two lines: the second one names the foreign procedure, and the first
one has no rare sign but those of its names and types. -/
theorem form_nil_eq (h : ProcedureHead) (params : List BoundParam) : ∃ first,
    h.form params [] = Text.unlines [first, importLine h.symbol] ∧
      Text.ofString "proc " <+: first ∧
      ∀ c, IsRareSign c → LacksSign c (h, params) → c ∉ first := by
  refine ⟨h.declare (enumerate (writtenParams params [])) ++ [' ', '\x7b', '.'], ?_, ?_, ?_⟩
  · simp only [form, List.isEmpty_nil, if_true, importLine, importLead, importEnd,
      Text.unlines_cons_cons, Text.unlines_singleton, Text.ofString_eq]
    simp
  · exact proc_prefix_declare h _ _
  · intro c hc hp
    have hmarks := hasNoRareSign_written.not_mem hc
    simp only [List.mem_append, List.mem_cons, List.not_mem_nil, or_false, not_or] at hmarks
    rw [List.mem_append, not_or]
    exact ⟨not_mem_declare hc hp (not_mem_params hc hp []), by simp [hmarks]⟩

/-- An adapter has three lines without rare signs but those of its names and types; the lines behind
the first one are indented. -/
theorem form_adapter_eq (h : ProcedureHead) (params : List BoundParam) {places : List Nat}
    (hne : places ≠ []) : ∃ first second third,
    h.form params places = Text.unlines [first, second, third ++ [')']] ∧
      Text.ofString "proc " <+: first ∧ Text.ofString "  " <+: second ∧
      Text.ofString "  " <+: third ∧
      ∀ c, IsRareSign c → LacksSign c (h, params) →
        c ∉ first ∧ c ∉ second ∧ c ∉ third ++ [')'] := by
  let copies := places.filterMap fun i => params[i]?.map fun p =>
    Text.ofString "var " ++ copyName p.name ++ Text.ofString " = " ++ p.name
  let arguments := params.zipIdx.map fun p =>
    if places.contains p.2 then copyName p.1.name else p.1.name
  refine ⟨h.declare (enumerate (writtenParams params places)) ++ [' ', '='],
    Text.ofString "  (" ++ List.intercalate (Text.ofString "; ") copies ++ [')'],
    Text.ofString "  " ++ h.callee ++ ['('] ++ enumerate arguments, ?_, proc_prefix_declare h _ _,
    ?_, ?_, ?_⟩
  · have hempty : places.isEmpty = false := by simpa using hne
    simp only [form, hempty, Bool.false_eq_true, if_false, Text.unlines_cons_cons,
      Text.unlines_singleton, Text.ofString_eq, copies, arguments]
    simp
  · have hindent : Text.ofString "  " <+: Text.ofString "  (" := by with_unfolding_all decide
    rw [List.append_assoc]
    exact hindent.trans (List.prefix_append _ _)
  · simp only [List.append_assoc]
    exact List.prefix_append _ _
  · intro c hc hp
    have hmarks := hasNoRareSign_written.not_mem hc
    have hcallee : c ∉ h.callee := not_mem_callee hc hp.name
    simp only [List.mem_append, List.mem_cons, List.not_mem_nil, or_false, not_or] at hmarks
    have hcopy : ∀ q ∈ params, c ∉ copyName q.name := by
      intro q hq
      have hname : c ∉ q.name := hp.paramName q hq
      simp [copyName, hmarks, hname]
    refine ⟨?_, ?_, ?_⟩
    · rw [List.mem_append, not_or]
      exact ⟨not_mem_declare hc hp (not_mem_params hc hp places), by simp [hmarks]⟩
    · have hcopies : c ∉ List.intercalate (Text.ofString "; ") copies := by
        intro hmem
        rcases Text.mem_of_mem_intercalate hmem with hmem | ⟨t, ht, hmem⟩
        · simp [hmarks] at hmem
        · obtain ⟨i, _, hi⟩ := List.mem_filterMap.mp ht
          obtain ⟨q, hq, rfl⟩ := Option.map_eq_some_iff.mp hi
          have hq' := List.mem_of_getElem? hq
          have hname : c ∉ q.name := hp.paramName q hq'
          simp [hmarks, hname, hcopy q hq'] at hmem
      simp [hmarks, hcopies]
    · have harguments : c ∉ enumerate arguments := by
        refine not_mem_enumerate hc ?_
        intro t ht
        obtain ⟨⟨q, i⟩, hmem, rfl⟩ := List.mem_map.mp ht
        have hq := List.fst_mem_of_mem_zipIdx hmem
        dsimp only
        split
        · exact hcopy q hq
        · exact hp.paramName q hq
      simp [hmarks, hcallee, harguments]

end ProcedureHead

/-! ## Other declarations -/

section Declarations

variable {corpus : Corpus} {mode : UnionMode} {handles : Handles} {d : Declaration} {b : Binding}

/-- What succeeds for a list of things was made from one of them each time. -/
theorem exists_of_mapM_eq_ok {α β ε : Type} {f : α → Except ε β} {xs : List α} {ys : List β}
    (h : xs.mapM f = .ok ys) : ∀ y ∈ ys, ∃ x ∈ xs, f x = .ok y := by
  induction xs generalizing ys with
  | nil =>
    cases h
    exact nofun
  | cons x xs ih =>
    rw [List.mapM_cons] at h
    obtain ⟨z, hz, h⟩ := exists_of_bind_eq_ok h
    obtain ⟨zs, hzs, h⟩ := exists_of_bind_eq_ok h
    cases h
    intro y hy
    rcases List.mem_cons.mp hy with rfl | hy
    · exact ⟨x, List.mem_cons_self, hz⟩
    · obtain ⟨x', hx', hfx⟩ := ih hzs y hy
      exact ⟨x', List.mem_cons_of_mem x hx', hfx⟩

/-- A member in writing has no rare sign but those of its name and its value. -/
theorem not_mem_assigned (hc : IsRareSign c) {name : Text} {value : Option Text}
    (hname : c ∉ name) (hvalue : ∀ v, value = some v → c ∉ v) : c ∉ assigned name value := by
  have hmarks := hasNoRareSign_written.not_mem hc
  simp only [List.mem_append, List.mem_cons, List.not_mem_nil, or_false, not_or] at hmarks
  unfold assigned
  cases value with
  | none => exact hname
  | some v =>
    have hv := hvalue v rfl
    simp [hmarks, hname, hv]

theorem mem_of_mem_bareName {name bare : Text} (hc : IsRareSign c)
    (h : bareName name = .ok bare) (hmem : c ∈ bare) : c ∈ name := by
  unfold bareName at h
  split at h
  · next hbare =>
    cases h
    exact mem_of_mem_bareName? hc.isSign hbare hmem
  · cases h

/-- The members that are shown have no names and values but those of the members, with the
beginning of the names left out. -/
theorem not_mem_of_mem_shown {items : List Enumerator} (hitems : ∀ e ∈ items, ∀ t ∈ e.texts, c ∉ t) :
    ∀ e ∈ Enumerator.shown items, ∀ t ∈ e.texts, c ∉ t := by
  intro e he t ht
  obtain ⟨e', he', rfl⟩ := List.mem_map.mp ((Enumerator.shown_perm items).mem_iff.mp he)
  have hkept := hitems e' (Enumerator.mem_kept_iff.mp he').1
  rcases List.mem_cons.mp ht with rfl | ht
  · exact fun hmem => hkept e'.name List.mem_cons_self (List.mem_of_mem_drop hmem)
  · exact hkept t (List.mem_cons_of_mem _ ht)

/-- The members of an enumeration in writing have no rare sign but those of their names and values,
line feeds apart. -/
theorem not_mem_render {items : List Enumerator} (hc : IsRareSign c) (hfeed : c ≠ '\n')
    (hitems : ∀ e ∈ items, ∀ t ∈ e.texts, c ∉ t) : c ∉ Enumerator.render items := by
  have hmarks := hasNoRareSign_written.not_mem hc
  simp only [List.mem_append, List.mem_cons, List.not_mem_nil, or_false, not_or] at hmarks
  have hlist : c ∉ List.intercalate (Text.ofString ", ")
      ((Enumerator.shown items).map fun e => assigned e.name e.value) := by
    intro hmem
    rcases Text.mem_of_mem_intercalate hmem with hmem | ⟨t, ht, hmem⟩
    · simp [hmarks] at hmem
    · obtain ⟨e, he, rfl⟩ := List.mem_map.mp ht
      have hshown := not_mem_of_mem_shown hitems e he
      refine not_mem_assigned hc (hshown e.name List.mem_cons_self) (fun v hv => ?_) hmem
      refine hshown v ?_
      rw [Enumerator.texts, hv]
      exact List.mem_cons_of_mem _ List.mem_cons_self
  intro hmem
  obtain ⟨line, hline, hmem⟩ := Text.mem_of_mem_unlines hfeed hmem
  obtain ⟨words, hwords, rfl⟩ := List.mem_map.mp hline
  rcases List.mem_append.mp hmem with hmem | hmem
  · simp [hmarks] at hmem
  · rcases Text.mem_of_mem_intercalate hmem with hmem | ⟨word, hword, hmem⟩
    · simp [hmarks] at hmem
    · -- Filling words into lines brings in no word.
      have hfilled := List.mem_flatten.mpr ⟨words, hwords, hword⟩
      rw [Text.flatten_fill] at hfilled
      exact hlist (Text.subset_of_mem_splitOnP (List.mem_of_mem_filter hfilled) hmem)

theorem not_mem_fieldType {name type : Text} (hc : IsRareSign c) (htype : c ∉ type) :
    c ∉ fieldType handles name type := by
  unfold fieldType
  dsimp only
  split
  · split
    · exact fun hmem => hasNoRareSign_written c (by simp [hmem]) hc
    split
    · exact fun hmem => hasNoRareSign_written c (by simp [hmem]) hc
    · exact fun hmem => htype (mem_of_mem_typeName hc hmem)
  · exact fun hmem => htype (mem_of_mem_typeName hc hmem)

/-- What a declaration is bound as. -/
inductive BoundAs (handles : Handles) (d : Declaration) : Binding → Prop where
  /-- A function is bound as a procedure. -/
  | procedure {s : Signature} {p : ProcedureHead × List BoundParam} (hd : d = .function s)
    (hp : procedureOf handles s = .ok p) : BoundAs handles d (.procedure (p.1.forms p.2))
  /-- An enumeration is bound as a type with its members. -/
  | enumeration {name bare : Text} {items : List Enumerator}
    (hd : d = .enumeration (some name) (some items)) (hname : bareName name = .ok bare) :
    BoundAs handles d (.enumeration
      ("type " ++ bare ++ "* \x7b.pure, size: sizeof(cint).\x7d = enum") (Enumerator.render items))
  /-- Any other declaration is bound in blocks that have no rare sign but its own. -/
  | plain {blocks : List Text} (hd : ∀ s, d ≠ .function s) (hblocks : ∀ c, IsRareSign c →
    (∀ t ∈ d.texts, c ∉ t) → ∀ block ∈ blocks, c ∉ block) : BoundAs handles d (.plain blocks)
  /-- A record or a handle is bound as an object. -/
  | object {head : Text} {fields : List Text} (hd : ∀ s, d ≠ .function s)
    (hblocks : ∀ c, IsRareSign c → (∀ t ∈ d.texts, c ∉ t) → ∀ block ∈ head :: fields, c ∉ block) :
    BoundAs handles d (.object head fields)

theorem boundAs_of_bindCallback {s : Signature} (h : bindCallback handles s = .ok b) :
    BoundAs handles (.callback s) b := by
  obtain ⟨name, hname, h⟩ := exists_of_bind_eq_ok h
  cases h
  refine .plain nofun ?_
  intro c hc hd block hblock
  rw [List.mem_singleton.mp hblock]
  have hmarks := hasNoRareSign_written.not_mem hc
  simp only [List.mem_append, List.mem_cons, List.not_mem_nil, or_false, not_or] at hmarks
  have hbare : c ∉ name := fun hmem => hd s.name List.mem_cons_self (mem_of_mem_bareName hc hname hmem)
  have hresult : c ∉ typeName handles [] s.result := fun hmem =>
    hd s.result (List.mem_cons_of_mem _ List.mem_cons_self) (mem_of_mem_typeName hc hmem)
  have hparams : c ∉ List.intercalate (Text.ofString "; ")
      (s.params.zipIdx.map fun pi => callbackParam handles pi.2 pi.1) := by
    intro hmem
    rcases Text.mem_of_mem_intercalate hmem with hmem | ⟨t, ht, hmem⟩
    · simp [hmarks] at hmem
    · obtain ⟨⟨p, i⟩, hpi, rfl⟩ := List.mem_map.mp ht
      have htexts : ∀ t ∈ p.texts, c ∉ t := fun t ht => hd t (List.mem_cons_of_mem _
        (List.mem_cons_of_mem _ (List.mem_flatMap.mpr ⟨p, List.fst_mem_of_mem_zipIdx hpi, ht⟩)))
      have htype : c ∉ typeName handles [] p.type := fun hmem =>
        htexts p.type List.mem_cons_self (mem_of_mem_typeName hc hmem)
      have hplace := (hasNoRareSign_placeName i).not_mem hc
      unfold Param.texts at htexts
      cases hname : p.name <;> simp_all [callbackParam]
  simp [hmarks, hbare, hresult, hparams]

theorem boundAs_bindAlias (name target : Text) :
    BoundAs handles (.alias name target) (bindAlias name target) := by
  unfold bindAlias
  split
  · next bare bareTarget hname htarget =>
    refine .plain nofun ?_
    intro c hc hd block hblock
    rw [List.mem_singleton.mp hblock]
    have hmarks := hasNoRareSign_written.not_mem hc
    simp only [List.mem_append, List.mem_cons, List.not_mem_nil, or_false, not_or] at hmarks
    have hbare : c ∉ bare := fun hmem =>
      hd name List.mem_cons_self (mem_of_mem_bareName? hc.isSign hname hmem)
    have hbareTarget : c ∉ bareTarget := fun hmem =>
      hd target (List.mem_cons_of_mem _ List.mem_cons_self)
        (mem_of_mem_bareName? hc.isSign htarget hmem)
    simp [hmarks, hbare, hbareTarget]
  · exact .plain nofun nofun

theorem boundAs_of_bindConstants {items : List Enumerator} (h : bindConstants items = .ok b) :
    BoundAs handles (.enumeration none (some items)) b := by
  obtain ⟨lines, hlines, h⟩ := exists_of_bind_eq_ok h
  cases h
  refine .plain nofun ?_
  intro c hc hd block hblock
  have hmarks := hasNoRareSign_written.not_mem hc
  simp only [List.mem_append, List.mem_cons, List.not_mem_nil, or_false, not_or] at hmarks
  rcases List.mem_cons.mp hblock with rfl | hblock
  · simp [hmarks]
  · obtain ⟨e, he, hline⟩ := exists_of_mapM_eq_ok hlines block hblock
    obtain ⟨bare, hbare, hline⟩ := exists_of_bind_eq_ok hline
    cases hline
    have htexts : ∀ t ∈ e.texts, c ∉ t := fun t ht => hd t (List.mem_flatMap.mpr ⟨e, he, ht⟩)
    have hname : c ∉ bare := fun hmem =>
      htexts e.name List.mem_cons_self (mem_of_mem_bareName hc hbare hmem)
    have hassigned : c ∉ assigned (bare ++ ['*']) e.value := by
      refine not_mem_assigned hc ?_ ?_
      · simp [hmarks, hname]
      · intro v hv
        refine htexts v ?_
        rw [Enumerator.texts, hv]
        exact List.mem_cons_of_mem _ List.mem_cons_self
    simp [hmarks, hassigned]

/-- An object has no rare sign but those of the record. -/
theorem not_mem_bindObject {pragmas : Text} {r : Record}
    (hpragmas : pragmas = Text.ofString "bycopy" ∨ pragmas = Text.ofString "union, bycopy")
    (h : bindObject handles pragmas r = .ok b) : ∃ head fields, b = .object head fields ∧
      ∀ c, IsRareSign c → (∀ t ∈ r.texts, c ∉ t) → ∀ block ∈ head :: fields, c ∉ block := by
  obtain ⟨fields, hfields, h⟩ := exists_of_bind_eq_ok h
  cases h
  refine ⟨_, _, rfl, ?_⟩
  intro c hc hr block hblock
  have hmarks := hasNoRareSign_written.not_mem hc
  simp only [List.mem_append, List.mem_cons, List.not_mem_nil, or_false, not_or] at hmarks
  rcases List.mem_cons.mp hblock with rfl | hblock
  · have hname : c ∉ typeName handles [] r.name := fun hmem =>
      hr r.name List.mem_cons_self (mem_of_mem_typeName hc hmem)
    rcases hpragmas with rfl | rfl <;> simp [hmarks, hname]
  · obtain ⟨p, hp, hline⟩ := exists_of_mapM_eq_ok hfields block hblock
    have htexts : ∀ t ∈ p.texts, c ∉ t := fun t ht =>
      hr t (List.mem_cons_of_mem _ (List.mem_flatMap.mpr ⟨p, List.mem_of_mem_filter hp, ht⟩))
    unfold fieldLine at hline
    split at hline
    · next name hpname =>
      cases hline
      have hname : c ∉ name := by
        refine htexts name ?_
        rw [Param.texts, hpname]
        exact List.mem_cons_of_mem _ List.mem_cons_self
      have htype : c ∉ fieldType handles name p.type :=
        not_mem_fieldType hc (htexts p.type List.mem_cons_self)
      simp [hmarks, hname, htype]
    · cases hline

theorem boundAs_of_bindStruct {r : Record} (h : bindStruct handles r = .ok b) :
    BoundAs handles (.struct r) b := by
  unfold bindStruct at h
  split at h
  · cases h
    exact .plain nofun nofun
  · obtain ⟨head, fields, rfl, hblocks⟩ := not_mem_bindObject (Or.inl rfl) h
    exact .object nofun hblocks

theorem boundAs_of_bindUnion {r : Record} (h : bindUnion handles mode r = .ok b) :
    BoundAs handles (.union r) b := by
  unfold bindUnion at h
  split at h
  · cases h
    exact .plain nofun nofun
  · cases mode with
    | object =>
      obtain ⟨head, fields, rfl, hblocks⟩ := not_mem_bindObject (Or.inr rfl) h
      exact .object nofun hblocks
    | included =>
      obtain ⟨bare, hbare, h⟩ := exists_of_bind_eq_ok h
      cases h
      refine .plain nofun ?_
      intro c hc hd block hblock
      rw [List.mem_singleton.mp hblock]
      have hmarks := hasNoRareSign_written.not_mem hc
      simp only [List.mem_append, List.mem_cons, List.not_mem_nil, or_false, not_or] at hmarks
      have hname : c ∉ Text.lower bare := fun hmem =>
        hd r.name List.mem_cons_self (mem_of_mem_bareName hc hbare
          (Text.mem_of_mem_lower hmem (Nat.lt_trans hc.1 (by decide))))
      simp [hmarks, hname]

theorem boundAs_of_bindHandle {name : Text} (h : bindHandle name = .ok b) :
    BoundAs handles (.handle name) b := by
  obtain ⟨bare, hbare, h⟩ := exists_of_bind_eq_ok h
  cases h
  refine .object nofun ?_
  intro c hc hd block hblock
  rw [List.mem_singleton.mp hblock]
  have hmarks := hasNoRareSign_written.not_mem hc
  simp only [List.mem_append, List.mem_cons, List.not_mem_nil, or_false, not_or] at hmarks
  have hname : c ∉ bare := fun hmem =>
    hd name List.mem_cons_self (mem_of_mem_bareName hc hbare hmem)
  simp [hmarks, hname]

/-- The binding of a declaration that is bound at once or as a handle is what the declaration is
bound as. -/
theorem boundAs_of_ofDeclaration {meaning : Meaning}
    (h : Meaning.ofDeclaration corpus mode handles d = .ok meaning)
    (hb : meaning = .binding b ∨ ∃ name, meaning = .handle name b) : BoundAs handles d b := by
  have hbinding : ∀ {e : Except BindingFault Binding},
      (e >>= fun b => pure (Meaning.binding b)) = .ok meaning → e = .ok b := by
    intro e he
    obtain ⟨b', he', hmeaning⟩ := exists_of_bind_eq_ok he
    cases hmeaning
    rcases hb with hb | ⟨name, hb⟩
    · cases hb
      exact he'
    · cases hb
  cases d with
  | function s =>
    obtain ⟨p, hp, hprocedure⟩ := exists_of_bind_eq_ok (hbinding h)
    cases hprocedure
    exact .procedure rfl hp
  | callback s => exact boundAs_of_bindCallback (hbinding h)
  | «alias» name target =>
    cases hbinding (e := .ok (bindAlias name target)) h
    exact boundAs_bindAlias name target
  | enumeration name items =>
    cases items with
    | none =>
      cases name with
      | none => cases h
      | some name =>
        -- A marker is no binding.
        obtain ⟨marker, _, h⟩ := exists_of_bind_eq_ok h
        cases marker with
        | block number =>
          obtain ⟨block, _, h⟩ := exists_of_bind_eq_ok h
          cases h
          rcases hb with hb | ⟨_, hb⟩ <;> cases hb
        | destination key banner =>
          cases h
          rcases hb with hb | ⟨_, hb⟩ <;> cases hb
    | some items =>
      cases name with
      | none => exact boundAs_of_bindConstants (hbinding h)
      | some name =>
        obtain ⟨bare, hbare, henumeration⟩ := exists_of_bind_eq_ok (hbinding h)
        cases henumeration
        exact .enumeration rfl hbare
  | struct r => exact boundAs_of_bindStruct (hbinding h)
  | union r => exact boundAs_of_bindUnion (hbinding h)
  | handle name =>
    obtain ⟨bare, _, h⟩ := exists_of_bind_eq_ok h
    obtain ⟨b', hb', h⟩ := exists_of_bind_eq_ok h
    cases h
    rcases hb with hb | ⟨_, hb⟩
    · cases hb
    · cases hb
      exact boundAs_of_bindHandle hb'

end Declarations

end Bindery
