import Bindery.Proofs.Adapter
import Bindery.Proofs.ParameterName

/-!
# What adapters call

An adapter calls the procedure by its name, and where a parameter has that name, it is the parameter
that is called. Both names come from C names, and both are shortened last, so it is seen from the C
names when they meet. A copy never has the name of the procedure.
-/

namespace Bindery

/-! ## Shortened names of methods -/

namespace CallName

variable {word name property : Text}

theorem property?_eq_some_iff : property? word name = some property ↔
    ∃ c rest, name = word ++ c :: rest ∧ Text.isUpper c = true ∧
      Text.lowerFirst (c :: rest) = property := by
  unfold property?
  constructor
  · intro h
    split at h
    · next c rest hafter =>
      split at h
      · next hupper => exact ⟨c, rest, Text.after?_eq_some_iff.mp hafter, hupper, Option.some.inj h⟩
      · cases h
    · cases h
  · rintro ⟨c, rest, rfl, hupper, rfl⟩
    rw [Text.after?_append]
    exact if_pos hupper

/-- The words that an accessor may begin with. -/
def leadWords : List Text := ["get", "is", "set"]

/-- In such a word no letter that the word for texts begins with has the next letter of it behind
it. -/
private theorem tails_leadWords : ∀ word ∈ leadWords, ∀ u ∈ word.tails,
    u.head?.any (fun c => decide (IsTextInitial c)) = true → u.tail.head? ≠ some 't' := by
  with_unfolding_all decide

/-- A text begins with such a word and a capital exactly when it does so in short. -/
theorem abbreviated_eq_leadWord_append_iff {c : Char} {t r : Text} (hword : word ∈ leadWords)
    (hupper : Text.isUpper c = true) :
    abbreviated t = word ++ c :: r ↔ ∃ u, t = word ++ u ∧ abbreviated u = c :: r := by
  refine abbreviated_eq_append_iff fun d v hv hinitial hbegins => ?_
  have hbehind := tails_leadWords word hword (d :: v) ((List.mem_tails _ _).mpr hv)
    (by simpa using hinitial)
  obtain ⟨rest, hrest⟩ := hbegins
  cases v with
  | nil =>
    obtain ⟨rfl, _⟩ := List.cons.inj hrest
    exact absurd hupper (by with_unfolding_all decide)
  | cons e v =>
    obtain ⟨rfl, _⟩ := List.cons.inj hrest
    exact hbehind rfl

/-- What is behind the word of an accessor is shortened like anything else. -/
theorem property?_abbreviated (hword : word ∈ leadWords) (name : Text) :
    property? word (abbreviated name) = (property? word name).map abbreviated := by
  refine Option.ext fun property => ?_
  rw [property?_eq_some_iff, Option.map_eq_some_iff]
  constructor
  · rintro ⟨c, rest, hname, hupper, rfl⟩
    obtain ⟨u, rfl, hu⟩ := (abbreviated_eq_leadWord_append_iff hword hupper).mp hname
    have hhead : u.head? = some c := by
      rw [← head?_abbreviated, hu, List.head?_cons]
    obtain ⟨behind, rfl⟩ := List.head?_eq_some_iff.mp hhead
    refine ⟨_, property?_eq_some_iff.mpr ⟨c, behind, rfl, hupper, rfl⟩, ?_⟩
    rw [← lowerFirst_abbreviated, hu]
  · rintro ⟨full, hfull, rfl⟩
    obtain ⟨c, rest, rfl, hupper, rfl⟩ := property?_eq_some_iff.mp hfull
    obtain ⟨behind, hbehind⟩ := List.head?_eq_some_iff.mp (head?_abbreviated (c :: rest))
    refine ⟨c, behind, ?_, hupper, ?_⟩
    · exact (abbreviated_eq_leadWord_append_iff hword hupper).mpr ⟨_, rfl, hbehind⟩
    · rw [← lowerFirst_abbreviated, hbehind]

/-- The same call by a name in which the word for texts is short. -/
def shortened (call : CallName) : CallName := { call with name := abbreviated call.name }

/-- It does not matter whether a name is shortened before or after it is looked at as an
accessor. -/
theorem ofMethod_abbreviated (name : Text) (n : Nat) :
    ofMethod (abbreviated name) n = (ofMethod name n).shortened := by
  unfold ofMethod
  split
  · rw [property?_abbreviated (by simp [leadWords]), property?_abbreviated (by simp [leadWords])]
    cases property? (Text.ofString "get") name with
    | some property => rfl
    | none => cases property? (Text.ofString "is") name <;> rfl
  · split
    · rw [property?_abbreviated (by simp [leadWords])]
      cases property? (Text.ofString "set") name <;> rfl
    · rfl

theorem withoutWide_abbreviated (name : Text) :
    withoutWide (abbreviated name) = abbreviated (withoutWide name) := by
  have hplain : ∀ c ∈ Text.ofString "unicode", ¬ IsTextInitial c := by with_unfolding_all decide
  by_cases hname : Text.ofString "unicode" <+: name
  · obtain ⟨rest, rfl⟩ := hname
    rw [abbreviated_append hplain, withoutWide, withoutWide, Text.after?_append, Text.after?_append]
    cases rest with
    | nil => exact (abbreviated_append hplain []).symm
    | cons c rest =>
      obtain ⟨behind, hbehind⟩ := List.head?_eq_some_iff.mp (head?_abbreviated (c :: rest))
      rw [hbehind]
      dsimp only
      rw [← lowerFirst_abbreviated, hbehind]
  · have hshort : ¬ Text.ofString "unicode" <+: abbreviated name := by
      rintro ⟨rest, hrest⟩
      obtain ⟨u, rfl, _⟩ := (abbreviated_eq_append_iff fun c v hv hc =>
        absurd hc (hplain c (hv.subset List.mem_cons_self))).mp hrest.symm
      exact hname (List.prefix_append _ _)
    have hnone : ∀ t : Text, ¬ Text.ofString "unicode" <+: t →
        Text.after? (Text.ofString "unicode") t = none := by
      intro t ht
      refine Option.eq_none_iff_forall_ne_some.mpr fun rest hrest => ht ⟨rest, ?_⟩
      exact (Text.after?_eq_some_iff.mp hrest).symm
    rw [withoutWide, withoutWide, hnone _ hname, hnone _ hshort]

theorem dropWide_shortened (call : CallName) :
    call.shortened.dropWide = call.dropWide.shortened := by
  rw [dropWide_eq, dropWide_eq, shortened, shortened, withoutWide_abbreviated]

/-- What is called begins with a letter that has been made small, if the method does. -/
theorem exists_dropWide_ofMethod_eq (name : Text) (n : Nat) :
    ∃ t, (ofMethod (Text.lowerFirst name) n).dropWide.name = Text.lowerFirst t := by
  have hproperty : ∃ t, (ofMethod (Text.lowerFirst name) n).name = Text.lowerFirst t := by
    have hsome : ∀ {word property : Text}, property? word (Text.lowerFirst name) = some property →
        ∃ t, property = Text.lowerFirst t := by
      intro word property h
      obtain ⟨c, rest, _, _, rfl⟩ := property?_eq_some_iff.mp h
      exact ⟨c :: rest, rfl⟩
    unfold ofMethod
    split
    · cases hget : property? (Text.ofString "get") (Text.lowerFirst name) with
      | some property => exact hsome hget
      | none =>
        cases his : property? (Text.ofString "is") (Text.lowerFirst name) with
        | some property => exact hsome his
        | none => exact ⟨name, rfl⟩
    · split
      · split
        · next hset => exact hsome hset
        · exact ⟨name, rfl⟩
      · exact ⟨name, rfl⟩
  obtain ⟨t, ht⟩ := hproperty
  rw [dropWide_eq]
  dsimp only
  rw [ht, withoutWide]
  split
  · exact ⟨_, rfl⟩
  · exact ⟨t, rfl⟩

end CallName

/-! ## Procedures and parameters of one name -/

/-- What is put behind a name to tell a procedure on C strings from the convenient one. -/
def textEnding (name : Text) (returnsText takesText : Bool) : Text :=
  if (returnsText && textNames.contains name) || (takesText && !Text.endsWith [textMark] name)
  then [textMark] else []

/-- What is called for a function whose name is `stem` behind the receiver, in full. -/
def Signature.fullCall (s : Signature) (stem : Text) : CallName :=
  (CallName.ofMethod (Text.lowerFirst (replacedName stem))
    (effectiveParams s.params).length).dropWide

/-- What is put behind the name of a function. -/
def Signature.ending (handles : Handles) (s : Signature) (name : Text) : Text :=
  textEnding name (isCString (resultType handles s.result))
    (takesText handles (effectiveParams s.params))

/-- How a function is called, before the word for texts is shortened in that. -/
def Signature.calledAs? (handles : Handles) (s : Signature) : Option Text :=
  (s.stem? handles).map fun stem =>
    let call := s.fullCall stem
    let name := call.name ++ s.ending handles (abbreviated call.name)
    if call.setter then "`" ++ name ++ "=`" else name

/-- A function has a parameter that is written like what is called for the function: in the C names,
they differ in the word for texts only, or the parameter has no name and the function is called like
its place. -/
def Signature.HidesProcedure (handles : Handles) (s : Signature) : Prop :=
  ∃ called, s.calledAs? handles = some called ∧
    ∃ i, ∃ p : Param, (effectiveParams s.params)[i]? = some p ∧
      match p.givenName? with
      | some name => SameShortened called (Text.lowerFirst (replacedName name))
      | none => called = placeName i

/-- What a form calls in its body is one of its parameters, which have some names, or a copy. -/
def FormTree.CallsVariable (names : List Text) : FormTree → Prop
  | foreign _ _ => False
  | adapter _ copies callee _ => callee ∈ names ∨ callee ∈ copies.map (·.1)

instance (names : List Text) : (form : FormTree) → Decidable (form.CallsVariable names)
  | .foreign _ _ => inferInstanceAs (Decidable False)
  | .adapter _ _ _ _ => inferInstanceAs (Decidable (_ ∨ _))

section Calls

variable {handles : Handles} {s : Signature} {head : ProcedureHead} {params : List BoundParam}
  {name : Text}

theorem markText_eq (name : Text) (returnsText takesText : Bool) :
    markText name returnsText takesText = name ++ textEnding name returnsText takesText := by
  have hmark : Text.endsWith [textMark] (name ++ [textMark]) = true :=
    Text.endsWith_iff.mpr ⟨name, rfl⟩
  unfold markText textEnding
  cases hreturns : returnsText && textNames.contains name with
  | true => simp [hmark]
  | false =>
    cases hmarked : takesText && !Text.endsWith [textMark] name <;> simp [hmarked]

/-- A procedure has the name of its function with the word for texts short. -/
theorem exists_head_eq (h : procedureOf handles s = .ok (head, params)) :
    ∃ stem, s.stem? handles = some stem ∧ head.setter = (s.fullCall stem).setter ∧
      head.name = abbreviated (s.fullCall stem).name ++
        s.ending handles (abbreviated (s.fullCall stem).name) := by
  obtain ⟨method, hmethod, hparams⟩ := exists_procedureNamed h
  obtain ⟨stem, hstem, rfl⟩ := exists_stem hmethod
  have hhead : (procedureNamed handles s (identifierName stem)).1 = head := by rw [hparams]
  have hcall : (CallName.ofMethod (identifierName stem)
      (effectiveParams s.params).length).dropWide = (s.fullCall stem).shortened := by
    rw [identifierName_eq, CallName.ofMethod_abbreviated, CallName.dropWide_shortened]
    rfl
  refine ⟨stem, hstem, ?_, ?_⟩
  · rw [← hhead, procedureNamed]
    dsimp only
    rw [hcall]
    rfl
  · rw [← hhead, procedureNamed]
    dsimp only
    rw [hcall, markText_eq]
    rfl

theorem abbreviated_textEnding (name : Text) (returnsText takesText : Bool) :
    abbreviated (textEnding name returnsText takesText) =
      textEnding name returnsText takesText := by
  unfold textEnding
  split
  · with_unfolding_all decide
  · rfl

/-- What is put behind a name is no part of the word for texts. -/
theorem head?_textEnding {returnsText takesText : Bool} :
    ∀ c ∈ (textEnding name returnsText takesText).head?, ¬ IsTextInitial c ∧ c ∉ fullTail := by
  unfold textEnding
  split
  · intro c hc
    rw [← Option.some.inj hc]
    decide
  · exact nofun

/-- What stands around the name of an assignment is kept. -/
theorem abbreviated_assignment (t : Text) :
    abbreviated (Text.ofString "`" ++ t ++ Text.ofString "=`") =
      Text.ofString "`" ++ abbreviated t ++ Text.ofString "=`" := by
  have htick : ∀ c ∈ Text.ofString "`", ¬ IsTextInitial c := by with_unfolding_all decide
  have hequals : Text.ofString "=`" = ['=', '`'] := by with_unfolding_all decide
  have hkept : abbreviated ['=', '`'] = ['=', '`'] := by with_unfolding_all decide
  have hplain : ∀ c ∈ (['=', '`'] : Text).head?, ¬ IsTextInitial c ∧ c ∉ fullTail := by
    intro c hc
    rw [← Option.some.inj hc]
    decide
  rw [hequals, List.append_assoc, List.append_assoc, abbreviated_append htick,
    abbreviated_append_of_head? hplain, hkept]

/-- A procedure is called as its function is, with the word for texts short. -/
theorem callee_eq_abbreviated (h : procedureOf handles s = .ok (head, params)) :
    ∃ called, s.calledAs? handles = some called ∧ head.callee = abbreviated called := by
  obtain ⟨stem, hstem, hsetter, hname⟩ := exists_head_eq h
  refine ⟨_, congrArg (Option.map _) hstem, ?_⟩
  have hshort : abbreviated ((s.fullCall stem).name ++
      s.ending handles (abbreviated (s.fullCall stem).name)) = head.name := by
    rw [hname, Signature.ending, abbreviated_append_of_head? head?_textEnding,
      abbreviated_textEnding]
  rw [ProcedureHead.callee, hsetter, ← hshort]
  dsimp only
  split
  · exact (abbreviated_assignment _).symm
  · rfl

/-- A parameter has a shortened name exactly when its C name is shortened to that, or it has none
and the name is that of its place. -/
theorem abbreviated_eq_paramName_iff {called : Text} {i : Nat} {p : Param} :
    abbreviated called = paramName i p ↔
      match p.givenName? with
      | some name => SameShortened called (Text.lowerFirst (replacedName name))
      | none => called = placeName i := by
  rw [paramName_eq]
  cases p.givenName? with
  | some name =>
    rw [Option.map_some, Option.getD_some, identifierName_eq, abbreviated_eq_abbreviated_iff]
  | none => exact abbreviated_eq_iff_of_forall (placeName_chars i).1

/-- A procedure is called like one of its parameters exactly when that is seen in the C names. -/
theorem callee_mem_names_iff (h : procedureOf handles s = .ok (head, params)) :
    head.callee ∈ params.map (·.name) ↔ s.HidesProcedure handles := by
  obtain ⟨called, hcalled, hcallee⟩ := callee_eq_abbreviated h
  obtain ⟨method, _, hparams⟩ := exists_procedureNamed h
  have hsecond : (procedureNamed handles s method).2 = params := by rw [hparams]
  have hmem : head.callee ∈ params.map (·.name) ↔
      ∃ i p, (effectiveParams s.params)[i]? = some p ∧ abbreviated called = paramName i p := by
    rw [hcallee, List.mem_map, ← hsecond]
    constructor
    · rintro ⟨b, hb, hname⟩
      obtain ⟨i, p, hp, rfl⟩ := mem_procedureNamed.mp hb
      exact ⟨i, p, hp, hname.symm⟩
    · rintro ⟨i, p, hp, hname⟩
      exact ⟨_, mem_procedureNamed.mpr ⟨i, p, hp, rfl⟩, hname.symm⟩
  rw [hmem, Signature.HidesProcedure]
  simp only [hcalled, Option.some.injEq, exists_eq_left', abbreviated_eq_paramName_iff]

/-- A copy is not called like the procedure: what follows the capital in front of it is not empty,
and what is called begins with a small letter. -/
theorem copyName_ne_callee (h : procedureOf handles s = .ok (head, params)) {p : BoundParam}
    (hp : p ∈ params) : ProcedureHead.copyName p.name ≠ head.callee := by
  have hne : p.name ≠ [] := by
    obtain ⟨method, _, hparams⟩ := exists_procedureNamed h
    have hmem : p ∈ (procedureNamed handles s method).2 := by rwa [hparams]
    obtain ⟨i, q, _, rfl⟩ := mem_procedureNamed.mp hmem
    exact paramName_ne_nil i q
  obtain ⟨stem, _, _, hname⟩ := exists_head_eq h
  obtain ⟨t, ht⟩ := CallName.exists_dropWide_ofMethod_eq (replacedName stem)
    (effectiveParams s.params).length
  intro he
  rw [ProcedureHead.callee] at he
  split at he
  · have htick : Text.ofString "`" = ['`'] := by with_unfolding_all decide
    rw [htick] at he
    exact absurd (List.cons.inj he).1 (by decide)
  · rw [hname, Signature.fullCall, ht, ← lowerFirst_abbreviated] at he
    cases hlower : Text.lowerFirst (abbreviated t) with
    | nil =>
      rw [hlower, List.nil_append, Signature.ending, textEnding] at he
      split at he
      · exact hne (List.cons.inj he).2
      · cases he
    | cons c rest =>
      rw [hlower] at he
      have hc := Text.isUpper_eq_false_of_head?_lowerFirst (congrArg List.head? hlower)
      rw [← (List.cons.inj he).1] at hc
      exact absurd hc (by decide)

/-- **What adapters call.** A function that is accepted becomes a procedure, and what one of its
forms calls is a variable of that form exactly when it is an adapter and the function has a
parameter that is written like what is called. A foreign declaration calls nothing. -/
theorem bindFunction_callsVariable_iff {b : Binding} (h : bindFunction handles s = .ok b) :
    ∃ head params, procedureOf handles s = .ok (head, params) ∧
      b = .procedure (head.forms params) ∧
        ∀ form ∈ head.forms params, ∃ chosenPlaces,
          chosenPlaces.Sublist (ProcedureHead.places params) ∧
            form = (head.tree params chosenPlaces).text ∧
              ((head.tree params chosenPlaces).CallsVariable (params.map (·.name)) ↔
                chosenPlaces ≠ [] ∧ s.HidesProcedure handles) := by
  obtain ⟨⟨head, params⟩, hprocedure, hb⟩ := exists_of_bind_eq_ok h
  cases hb
  refine ⟨head, params, hprocedure, rfl, fun form hform => ?_⟩
  obtain ⟨chosenPlaces, hchosen, rfl⟩ := ProcedureHead.mem_forms_iff.mp hform
  rw [choices_eq_sublists', List.mem_sublists'] at hchosen
  refine ⟨chosenPlaces, hchosen, head.form_eq_text hchosen, ?_⟩
  by_cases hnone : chosenPlaces = []
  · rw [ProcedureHead.tree, if_pos hnone]
    exact iff_of_false not_false fun hboth => hboth.1 hnone
  · rw [ProcedureHead.tree, if_neg hnone, ← callee_mem_names_iff hprocedure]
    have hcopy : head.callee ∉ ((params.zipIdx.filter fun p => chosenPlaces.contains p.2).map
        fun p => (ProcedureHead.copyName p.1.name, p.1.name)).map (·.1) := by
      intro hmem
      rw [List.map_map] at hmem
      obtain ⟨p, hp, he⟩ := List.mem_map.mp hmem
      exact copyName_ne_callee hprocedure
        (List.fst_mem_of_mem_zipIdx (List.mem_of_mem_filter hp)) he
    exact ⟨fun hcalls => ⟨hnone, hcalls.resolve_right hcopy⟩, fun hboth => Or.inl hboth.2⟩

/-- A function with two parameters that may be given by value, called by a name of its own. -/
def transformCombine : Signature :=
  { result := "void"
    name := "sfTransform_combine"
    params := [⟨"const sfTransform*", some "transform"⟩, ⟨"const sfTransform*", some "other"⟩] }

/-- None of its adapters calls a variable. -/
theorem bindFunction_callsVariable_transformCombine :
    ∃ head params, procedureOf [] transformCombine = .ok (head, params) ∧
      ∀ form ∈ head.forms params, ∃ chosenPlaces, form = (head.tree params chosenPlaces).text ∧
        ¬ (head.tree params chosenPlaces).CallsVariable (params.map (·.name)) := by
  have hisOk : (bindFunction [] transformCombine).isOk = true := by with_unfolding_all decide
  have hfree : ∀ p ∈ (procedureOf [] transformCombine).toOption,
      p.1.callee ∉ p.2.map (·.name) := by
    with_unfolding_all decide
  obtain ⟨b, hok⟩ := exists_of_isOk hisOk
  obtain ⟨head, params, hprocedure, _, hforms⟩ := bindFunction_callsVariable_iff hok
  refine ⟨head, params, hprocedure, fun form hform => ?_⟩
  obtain ⟨chosenPlaces, _, htext, hcalls⟩ := hforms form hform
  refine ⟨chosenPlaces, htext, fun hvariable => ?_⟩
  have hhides := (hcalls.mp hvariable).2
  rw [← callee_mem_names_iff hprocedure] at hhides
  refine hfree (head, params) ?_ hhides
  rw [hprocedure]
  exact Option.mem_some_self _

/-- A function that gives back what it is called on. -/
def transformGetter : Signature :=
  { result := "sfBool"
    name := "sfTransform_getTransform"
    params := [⟨"const sfTransform*", some "transform"⟩] }

/-- The adapter among its forms. -/
def transformAdapter : FormTree :=
  .adapter "proc transform*(transform: Transform): BoolInt" [("Ctransform", "transform")]
    "transform" ["Ctransform"]

/-- It calls its own parameter. -/
theorem callsVariable_transformAdapter :
    bindFunction [] transformGetter = .ok (.procedure [
      (FormTree.foreign "proc transform*(transform: (var Transform)\x7blvalue\x7d): BoolInt"
        "sfTransform_getTransform").text, transformAdapter.text]) ∧
      transformAdapter.CallsVariable ["transform"] := by
  with_unfolding_all decide

end Calls

end Bindery
