import Bindery.Proofs.Abbreviation
import Bindery.Proofs.KeywordName

/-!
# Names of parameters

A parameter is called by its declared name, written as an identifier, or by its place. The names of
the parameters of a function are written in all forms of its procedure, and when two of them are the
same can be said of the C names alone.
-/

namespace Bindery

/-! ## Names of places -/

section Places

variable {i j : Nat} {name t : Text}

/-- Different places have different names. -/
theorem placeName_injective (h : placeName i = placeName j) : i = j := by
  have hdigits : Nat.toDigits 10 (i + 1) = Nat.toDigits 10 (j + 1) := (List.cons.inj h).2
  have hnumber := congrArg (Nat.ofDigitChars 10 · 0) hdigits
  simp only [Nat.ofDigitChars_toDigits (by decide : 1 < 10) (by decide)] at hnumber
  exact Nat.succ.inj hnumber

/-- Neither the keywords nor their replacements begin like the name of a place. -/
private theorem head?_of_mem_keywordNames : ∀ entry ∈ keywordNames, ∀ c ∈ ['p', 'P'],
    entry.1.head? ≠ some c ∧ entry.2.head? ≠ some c := by
  with_unfolding_all decide

theorem replacedName_eq_iff (h : t.head? = some 'p' ∨ t.head? = some 'P') :
    replacedName name = t ↔ name = t := by
  have hentry : ∀ entry ∈ keywordNames, entry.1 ≠ t ∧ entry.2 ≠ t := by
    intro entry hentry
    have hhead := head?_of_mem_keywordNames entry hentry
    constructor
    · rintro rfl
      rcases h with h | h
      · exact (hhead 'p' (by decide)).1 h
      · exact (hhead 'P' (by decide)).1 h
    · rintro rfl
      rcases h with h | h
      · exact (hhead 'p' (by decide)).2 h
      · exact (hhead 'P' (by decide)).2 h
  rw [replacedName]
  cases hlookup : keywordNames.lookup name with
  | none => rfl
  | some value =>
    have hmem := hentry _ (mem_of_lookup hlookup)
    exact iff_of_false hmem.2 hmem.1

/-- The name of a place has no letter that the word for texts begins with, and no accent. -/
theorem placeName_chars (i : Nat) : (∀ c ∈ placeName i, ¬ IsTextInitial c) ∧
    (placeName i).tail.head? ≠ some (Char.ofNat 0x307) := by
  have hdigit : ∀ c ∈ Text.ofNat (i + 1), c.isDigit = true := fun c hc =>
    Nat.isDigit_of_mem_toDigits (by decide) (by decide) hc
  constructor
  · intro c hc hinitial
    rcases List.mem_cons.mp hc with rfl | hc
    · exact absurd hinitial (by decide)
    · have hc := hdigit c hc
      rcases hinitial with rfl | rfl
      · exact absurd hc (by decide)
      · exact absurd hc (by decide)
  · intro hmark
    exact absurd (hdigit _ (List.mem_of_mem_head? hmark)) (by decide)

/-- What becomes a text without a letter that the word for texts begins with is that text. -/
theorem abbreviated_eq_iff_of_forall (h : ∀ c ∈ t, ¬ IsTextInitial c) {x : Text} :
    abbreviated x = t ↔ x = t := by
  have hself : abbreviated t = t := by
    have hkept := abbreviated_append h []
    rwa [List.append_nil, abbreviated_nil, List.append_nil] at hkept
  constructor
  · intro hx
    rw [← hself, abbreviated_eq_abbreviated_iff] at hx
    have hsame := hx.symm
    rw [← List.append_nil t] at hsame
    obtain ⟨u, rfl, hu⟩ := hsame.exists_append h
    cases hu
    exact List.append_nil t
  · rintro rfl
    exact hself

/-- A C name becomes the name of a place exactly when it is that or has a capital in front. -/
theorem identifierName_eq_placeName_iff :
    identifierName name = placeName i ↔ name = placeName i ∨ name = capital (placeName i) := by
  obtain ⟨hplain, hmark⟩ := placeName_chars i
  rw [identifierName_eq, abbreviated_eq_iff_of_forall hplain]
  have hcase : Text.lowerFirst (replacedName name) = placeName i ↔
      replacedName name = placeName i ∨ replacedName name = capital (placeName i) := by
    constructor
    · intro h
      exact Text.eq_or_eq_of_lowerFirst h (by decide) (by decide) hmark
    · rintro (h | h)
      · rw [h]
        rfl
      · rw [h]
        rfl
  rw [hcase, replacedName_eq_iff (Or.inl rfl), replacedName_eq_iff (Or.inr rfl)]

end Places

/-! ## Names of parameters -/

/-- The declared name of a parameter, if it has one that is not empty. -/
def Param.givenName? (p : Param) : Option Text := p.name.filter (!·.isEmpty)

/-- Two parameters at different places get one name: theirs are written in the same way, or one has
for its name the place of the other one, which has none. -/
def Param.Clash (i : Nat) (p : Param) (j : Nat) (q : Param) : Prop :=
  match p.givenName?, q.givenName? with
  | some a, some b => SameIdentifier a b
  | some a, none => a = placeName j ∨ a = capital (placeName j)
  | none, some b => b = placeName i ∨ b = capital (placeName i)
  | none, none => False

section Parameters

variable {i j : Nat} {p q : Param} {name : Text}

theorem replacedName_ne_nil (h : name ≠ []) : replacedName name ≠ [] := by
  have hwritten : ∀ entry ∈ keywordNames, entry.2 ≠ [] := by with_unfolding_all decide
  rw [replacedName]
  cases hlookup : keywordNames.lookup name with
  | none => exact h
  | some value => exact hwritten _ (mem_of_lookup hlookup)

theorem identifierName_ne_nil (h : name ≠ []) : identifierName name ≠ [] := by
  rw [identifierName_eq]
  intro hnil
  have hhead := head?_abbreviated (Text.lowerFirst (replacedName name))
  rw [hnil, List.head?_nil, eq_comm, List.head?_eq_none_iff] at hhead
  cases hname : replacedName name with
  | nil => exact replacedName_ne_nil h hname
  | cons c t =>
    rw [hname, Text.lowerFirst, List.append_eq_nil_iff] at hhead
    exact Text.lowerChar_ne_nil c hhead.1

/-- A parameter is called by its declared name, or by its place. -/
theorem paramName_eq (i : Nat) (p : Param) :
    paramName i p = (p.givenName?.map identifierName).getD (placeName i) := by
  obtain ⟨type, name⟩ := p
  cases name with
  | none => rfl
  | some name =>
    cases name with
    | nil =>
      have hnil : identifierName [] = [] := by with_unfolding_all decide
      simp only [paramName, Option.map_some, hnil]
      rfl
    | cons c t =>
      have hne := identifierName_ne_nil (List.cons_ne_nil c t)
      simp only [paramName, Option.map_some]
      cases hname : identifierName (c :: t) with
      | nil => exact absurd hname hne
      | cons d rest => exact hname.symm

theorem paramName_ne_nil (i : Nat) (p : Param) : paramName i p ≠ [] := by
  unfold paramName
  split
  · exact List.cons_ne_nil _ _
  · exact List.cons_ne_nil _ _

/-- Two parameters get one name exactly when their C names clash. -/
theorem paramName_eq_paramName_iff (h : i ≠ j) :
    paramName i p = paramName j q ↔ p.Clash i j q := by
  rw [paramName_eq, paramName_eq, Param.Clash]
  cases p.givenName? with
  | none =>
    cases q.givenName? with
    | none => exact iff_of_false (mt placeName_injective h) not_false
    | some b => exact eq_comm.trans identifierName_eq_placeName_iff
  | some a =>
    cases q.givenName? with
    | none => exact identifierName_eq_placeName_iff
    | some b => exact identifierName_eq_identifierName_iff

end Parameters

/-! ## Names in the forms of a procedure -/

/-- The names of the parameters of a function. -/
def Signature.paramNames (s : Signature) : List Text :=
  (effectiveParams s.params).zipIdx.map fun p => paramName p.2 p.1

/-- Two declared parameters of a function get one name. -/
def Signature.HasClash (s : Signature) : Prop :=
  ∃ i j, ∃ p q : Param, i < j ∧ s.params[i]? = some p ∧ s.params[j]? = some q ∧ p.Clash i j q

/-- What a form declares parameters with some names for: they stand between the brackets of its
first line, each before its type. -/
def DeclaresParams (names : List Text) (form : Text) : Prop :=
  ∃ (lead : Text) (params : List TypedName) (rest : Text), params.map (·.name) = names ∧
    form = "proc " ++ lead ++ ['('] ++
      (ProcedureHead.enumerate (params.map TypedName.paramText) ++ ')' :: rest)

section Forms

variable {handles : Handles} {s : Signature} {b : Binding} {i j : Nat} {p q : Param}

theorem getElem?_paramNames :
    s.paramNames[i]? = (effectiveParams s.params)[i]?.map (paramName i) := by
  rw [Signature.paramNames, List.getElem?_map, List.getElem?_zipIdx]
  cases (effectiveParams s.params)[i]? <;> simp

/-- A function with two declared parameters has these parameters only. -/
theorem effectiveParams_of_lt {params : List Param} (h : 1 < params.length) :
    effectiveParams params = params := by
  unfold effectiveParams
  split
  · exact absurd h (Nat.lt_irrefl 1)
  · rfl

theorem length_effectiveParams_le (params : List Param) :
    (effectiveParams params).length ≤ params.length := by
  unfold effectiveParams
  split
  · split
    · exact Nat.zero_le _
    · exact Nat.le_refl _
  · exact Nat.le_refl _

/-- All names are different exactly when no two declared parameters clash. -/
theorem nodup_paramNames_iff : s.paramNames.Nodup ↔ ¬ s.HasClash := by
  rw [List.nodup_iff_getElem?_ne_getElem?]
  have hparams : ∀ {j : Nat}, 0 < j → (j < s.paramNames.length ∨ j < s.params.length) →
      effectiveParams s.params = s.params := by
    intro j hpos hj
    refine effectiveParams_of_lt ?_
    have hle := length_effectiveParams_le s.params
    rw [Signature.paramNames, List.length_map, List.length_zipIdx] at hj
    omega
  constructor
  · rintro hall ⟨i, j, p, q, hlt, hp, hq, hclash⟩
    have hlength := (List.getElem?_eq_some_iff.mp hq).1
    have heffective := hparams (by omega) (Or.inr hlength)
    have hj : s.paramNames[j]? = some (paramName j q) := by
      rw [getElem?_paramNames, heffective, hq, Option.map_some]
    refine hall i j hlt (List.getElem?_eq_some_iff.mp hj).1 ?_
    rw [hj, getElem?_paramNames, heffective, hp, Option.map_some,
      (paramName_eq_paramName_iff (Nat.ne_of_lt hlt)).mpr hclash]
  · intro hclash i j hlt hj hsame
    have heffective := hparams (by omega) (Or.inl hj)
    have hname := List.getElem?_eq_getElem hj
    rw [hname] at hsame
    generalize s.paramNames[j] = name at hname hsame
    rw [getElem?_paramNames, heffective, Option.map_eq_some_iff] at hname hsame
    obtain ⟨q, hq, rfl⟩ := hname
    obtain ⟨p, hp, hsame⟩ := hsame
    exact hclash ⟨i, j, p, q, hlt, hp, hq,
      (paramName_eq_paramName_iff (Nat.ne_of_lt hlt)).mp hsame⟩

/-- A parameter of a form with its type in writing. -/
def writtenParam (places : List Nat) (p : BoundParam × Nat) : TypedName :=
  ⟨p.1.name, if !p.1.byValue then p.1.type
    else if places.contains p.2 then dereference p.1.type
    else "(" ++ p.1.type ++ ")\x7blvalue\x7d"⟩

/-- A form declares parameters with the names of those of its procedure. -/
theorem declaresParams_form (h : ProcedureHead) (params : List BoundParam) (places : List Nat) :
    DeclaresParams (params.map (·.name)) (h.form params places) := by
  obtain ⟨rest, hform⟩ := h.exists_form_eq_append params places
  refine ⟨h.callee ++ (if h.exported then ['*'] else []),
    params.zipIdx.map (writtenParam places), rest, ?_, ?_⟩
  · rw [List.map_map]
    conv_rhs => rw [← List.zipIdx_map_fst 0 params, List.map_map]
    rfl
  · rw [hform, List.map_map, ← List.append_assoc (Text.ofString "proc ")]
    rfl

/-- **When the names of parameters are different.** A function that is accepted becomes a procedure
of which every form declares parameters with the same names, and all of these are different exactly
when no two parameters of the function clash. -/
theorem bindFunction_nodup_names_iff (h : bindFunction handles s = .ok b) :
    ∃ head params, procedureOf handles s = .ok (head, params) ∧
      b = .procedure (head.forms params) ∧ params.map (·.name) = s.paramNames ∧
        (∀ form ∈ head.forms params, DeclaresParams s.paramNames form) ∧
          (s.paramNames.Nodup ↔ ¬ s.HasClash) := by
  obtain ⟨⟨head, params⟩, hprocedure, hb⟩ := exists_of_bind_eq_ok h
  cases hb
  have hnames : params.map (·.name) = s.paramNames := by
    obtain ⟨method, _, hparams⟩ := exists_procedureNamed hprocedure
    have hsecond : (procedureNamed handles s method).2 = params := by rw [hparams]
    rw [← hsecond, procedureNamed, List.map_map]
    rfl
  refine ⟨head, params, hprocedure, rfl, hnames, fun form hform => ?_, nodup_paramNames_iff⟩
  obtain ⟨places, _, rfl⟩ := ProcedureHead.mem_forms_iff.mp hform
  rw [← hnames]
  exact declaresParams_form head params places

/-- A function with a name of each kind: one that is kept, a keyword, one with the word for texts
in it, and none. -/
def sensorSetup : Signature :=
  { result := "void"
    name := "sfSensor_setup"
    params := [⟨"const sfSensor*", some "sensor"⟩, ⟨"int", some "object"⟩,
      ⟨"int", some "stringLength"⟩, ⟨"int", none⟩] }

/-- Its parameters do not clash. -/
theorem bindFunction_nodup_names_sensorSetup :
    ∃ head params, procedureOf ["Sensor"] sensorSetup = .ok (head, params) ∧
      (∀ form ∈ head.forms params, DeclaresParams ["sensor", "obj", "strLength", "p4"] form) ∧
        ¬ sensorSetup.HasClash := by
  have hisOk : (bindFunction ["Sensor"] sensorSetup).isOk = true := by with_unfolding_all decide
  have hnames : sensorSetup.paramNames = ["sensor", "obj", "strLength", "p4"] := by
    with_unfolding_all decide
  obtain ⟨b, hok⟩ := exists_of_isOk hisOk
  obtain ⟨head, params, hprocedure, _, _, hforms, hnodup⟩ := bindFunction_nodup_names_iff hok
  rw [hnames] at hforms hnodup
  exact ⟨head, params, hprocedure, hforms, hnodup.mp (by with_unfolding_all decide)⟩

/-- A function with a parameter that is named by a keyword and one that is named by what is written
for it. -/
def sensorEnable : Signature :=
  { result := "void"
    name := "sfSensor_enable"
    params := [⟨"int", some "type"⟩, ⟨"int", some "kind"⟩] }

/-- Its parameters have different names, and its only form declares two parameters of one name. -/
theorem not_nodup_names_sensorEnable : (sensorEnable.params.map (·.name)).Nodup ∧
    bindFunction [] sensorEnable = .ok (.procedure ["proc sensor_enable*(kind: cint, kind: cint)" ++
      " \x7b.\n  cdecl, importc: \"sfSensor_enable\".\x7d"]) ∧
      sensorEnable.paramNames = ["kind", "kind"] ∧ ¬ sensorEnable.paramNames.Nodup := by
  with_unfolding_all decide

end Forms

end Bindery
