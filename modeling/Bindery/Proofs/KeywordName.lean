import Bindery.Proofs.TargetDeclaration

/-!
# Names that are keywords

A name of a procedure or a parameter that means something else in the target language is replaced,
but that is done once, before the first letter becomes small and before accessors lose the words
that say what they do. Parameters of callbacks and fields are not looked at. So keywords come up
again, and from which C names they come can be listed.
-/

namespace Bindery

namespace Text

variable {old new t word : Text}

/-- A word that has lost its first letter is left where the first letter becomes small. -/
theorem infix_lowerFirst {c : Char} (h : c :: word <:+: t) : word <:+: lowerFirst t := by
  have hword : word <:+: t.tail := by
    cases t with
    | nil => cases List.infix_nil.mp h
    | cons d t =>
      rcases List.infix_cons_iff.mp h with hstart | hoccurs
      · exact (List.cons_prefix_cons.mp hstart).2.isInfix
      · exact (List.suffix_cons c word).isInfix.trans hoccurs
  cases t with
  | nil => exact hword
  | cons d t => exact hword.trans (List.suffix_append _ _).isInfix

end Text

/-! ## Names of methods -/

/-- The identifiers that mean something else in the target language. -/
def keywords : List Text := keywordNames.map (·.1)

/-- A text with a capital in front. -/
def capital : Text → Text
  | [] => []
  | c :: t => c.toUpper :: t

/-- The names of methods that are called by a keyword. -/
def plainKeywordMethods : List Text :=
  keywords.flatMap fun k => [k, "unicode" ++ k, "unicode" ++ capital k]

/-- The names of getters and predicates that are called by a keyword. -/
def keywordGetters : List Text :=
  plainKeywordMethods.flatMap fun m => ["get" ++ capital m, "is" ++ capital m]

/-- The names of methods with a number of parameters that are called by a keyword. -/
def keywordMethods (n : Nat) : List Text :=
  plainKeywordMethods ++ if n = 1 then keywordGetters else []

section Methods

variable {m x : Text} {n : Nat}

theorem mem_keywordMethods_iff :
    m ∈ keywordMethods n ↔ m ∈ plainKeywordMethods ∨ n = 1 ∧ m ∈ keywordGetters := by
  unfold keywordMethods
  rw [List.mem_append]
  split
  · next h => simp [h]
  · next h => simp [h]

/-- Only these begin like the names of getters and predicates. -/
private theorem property?_of_mem : ∀ m ∈ plainKeywordMethods,
    ∀ word ∈ (["get", "is", "set"] : List Text), CallName.property? word m = none := by
  with_unfolding_all decide

private theorem lowerFirst_of_mem : ∀ m ∈ plainKeywordMethods ++ keywordGetters,
    Text.lowerFirst m = m ∧ Text.lowerFirst (capital m) = m := by
  with_unfolding_all decide

/-- The names begin with small letters of which the capitals are known. -/
private theorem head_of_mem : ∀ m ∈ plainKeywordMethods ++ keywordGetters,
    m.head?.any (fun e => e.toNat < 128 && e != 'k' && !Text.isUpper e) = true ∧
      m.tail.head? ≠ some (Char.ofNat 0x307) := by
  with_unfolding_all decide

/-- A text becomes such a name where its first letter becomes small exactly when it is the name or
has a capital in front. -/
theorem lowerFirst_eq_iff (hm : m ∈ plainKeywordMethods ++ keywordGetters) :
    Text.lowerFirst x = m ↔ x = m ∨ x = capital m := by
  constructor
  · intro h
    obtain ⟨hhead, hrest⟩ := head_of_mem m hm
    cases m with
    | nil => cases hhead
    | cons e rest =>
      simp only [List.head?_cons, Option.any_some, Bool.and_eq_true, decide_eq_true_eq,
        bne_iff_ne] at hhead
      exact Text.eq_or_eq_of_lowerFirst h hhead.1.1 hhead.1.2 hrest
  · rintro (rfl | rfl)
    · exact (lowerFirst_of_mem x hm).1
    · exact (lowerFirst_of_mem m hm).2

/-- What is behind the word of an accessor has a capital in front. -/
theorem lowerFirst_eq_iff_of_isUpper (hm : m ∈ plainKeywordMethods ++ keywordGetters) {c : Char}
    {rest : Text} (hc : Text.isUpper c = true) :
    Text.lowerFirst (c :: rest) = m ↔ c :: rest = capital m := by
  rw [lowerFirst_eq_iff hm, or_iff_right_iff_imp]
  rintro rfl
  have hhead := (head_of_mem _ hm).1
  simp [hc] at hhead

/-- A name that is replaced does not become a name that is called by a keyword. -/
private theorem identifierName_of_replaced : ∀ entry ∈ keywordNames, Text.lowerFirst
    (Text.replace (Text.ofString "string") (Text.ofString "str")
      (Text.replace (Text.ofString "String") (Text.ofString "Str") entry.2)) ∉
        plainKeywordMethods ++ keywordGetters := by
  with_unfolding_all decide

private theorem identifierName_of_mem : ∀ m ∈ plainKeywordMethods ++ keywordGetters,
    ∀ stem ∈ [m, capital m], stem ∉ keywords → identifierName stem = m := by
  with_unfolding_all decide

/-- No such name has a sign of a replacement in it. -/
private theorem not_infix_of_mem : ∀ m ∈ plainKeywordMethods ++ keywordGetters,
    ¬ Text.ofString "tr" <:+: m := by
  with_unfolding_all decide

/-- A C identifier becomes such a name exactly when it is the name or has a capital in front, and is
not replaced itself. -/
theorem identifierName_eq_iff (hm : m ∈ plainKeywordMethods ++ keywordGetters) :
    identifierName x = m ↔ x ∉ keywords ∧ (x = m ∨ x = capital m) := by
  constructor
  · intro h
    have hword : ∀ word ∈ ([Text.ofString "str", Text.ofString "Str"] : List Text), ∀ {t : Text},
        Text.lowerFirst t = m → ¬ word <:+: t := by
      intro word hword t ht hoccurs
      have htail : ∃ c, word = c :: Text.ofString "tr" := by
        rcases List.mem_pair.mp hword with rfl | rfl
        · exact ⟨'s', by with_unfolding_all decide⟩
        · exact ⟨'S', by with_unfolding_all decide⟩
      obtain ⟨c, rfl⟩ := htail
      refine not_infix_of_mem m hm ?_
      rw [← ht]
      exact Text.infix_lowerFirst hoccurs
    unfold identifierName at h
    dsimp only at h
    cases hlookup : keywordNames.lookup x with
    | some value =>
      rw [hlookup] at h
      exact absurd (h ▸ hm) (identifierName_of_replaced _ (mem_of_lookup hlookup))
    | none =>
      rw [hlookup, Option.getD_none] at h
      -- Neither replacement has done anything.
      have hsmall := Text.infix_replace_or_eq.resolve_left (hword _ (by simp) h)
      rw [hsmall] at h
      have hlarge := Text.infix_replace_or_eq.resolve_left (hword _ (by simp) h)
      rw [hlarge] at h
      refine ⟨?_, (lowerFirst_eq_iff hm).mp h⟩
      intro hx
      obtain ⟨entry, hentry, rfl⟩ := List.mem_map.mp hx
      rw [List.lookup_eq_none_iff] at hlookup
      simpa using hlookup entry hentry
  · rintro ⟨hx, hstem⟩
    exact identifierName_of_mem m hm x (by simpa using hstem) hx

end Methods

/-! ## Calls -/

namespace CallName

variable {m : Text} {n : Nat}

/-- What is called by a keyword is so because of its name, or because of the word for the
representation in front of it. -/
theorem dropWide_mem_keywords_iff {call : CallName} :
    call.dropWide.name ∈ keywords ↔ call.name ∈ plainKeywordMethods := by
  have hplain : ∀ k ∈ keywords, k ∈ plainKeywordMethods ∧
      Text.ofString "unicode" ++ k ∈ plainKeywordMethods ∧
      Text.ofString "unicode" ++ capital k ∈ plainKeywordMethods := by
    with_unfolding_all decide
  have hdrop : ∀ m ∈ plainKeywordMethods, ({ name := m } : CallName).dropWide.name ∈ keywords := by
    with_unfolding_all decide
  have hname : call.dropWide.name = ({ name := call.name } : CallName).dropWide.name := by
    unfold dropWide
    dsimp only
    split <;> rfl
  constructor
  · intro h
    unfold dropWide at h
    split at h
    · next c rest hafter =>
      dsimp only at h
      rw [Text.after?_eq_some_iff.mp hafter]
      have hk := List.mem_append_left keywordGetters (hplain _ h).1
      rcases (lowerFirst_eq_iff hk).mp rfl with he | he
      · rw [he]
        exact (hplain _ h).2.1
      · rw [he]
        exact (hplain _ h).2.2
    · exact (hplain _ h).1
  · intro h
    rw [hname]
    exact hdrop _ h

/-- A method is an accessor for such a name exactly when it is called by the word and the name with
a capital. -/
theorem property?_eq_some_iff_of_mem {word p : Text} (hp : p ∈ plainKeywordMethods) :
    property? word m = some p ↔ m = word ++ capital p := by
  have hcapital : ∀ p ∈ plainKeywordMethods, (capital p).head?.any Text.isUpper = true := by
    with_unfolding_all decide
  have hmem := List.mem_append_left keywordGetters hp
  constructor
  · intro h
    unfold property? at h
    split at h
    · next c rest hafter =>
      split at h
      · next hc =>
        rw [Text.after?_eq_some_iff.mp hafter,
          (lowerFirst_eq_iff_of_isUpper hmem hc).mp (Option.some.inj h)]
      · cases h
    · cases h
  · rintro rfl
    have hhead := hcapital p hp
    have hsmall := (lowerFirst_of_mem p hmem).2
    generalize capital p = t at hhead hsmall
    cases t with
    | nil => cases hhead
    | cons c rest =>
      rw [property?, Text.after?_append]
      exact (if_pos hhead).trans (congrArg some hsmall)

theorem mem_keywordGetters_iff : m ∈ keywordGetters ↔ ∃ p ∈ plainKeywordMethods,
    property? (Text.ofString "get") m = some p ∨ property? (Text.ofString "is") m = some p := by
  unfold keywordGetters
  rw [List.mem_flatMap]
  refine exists_congr fun p => and_congr_right fun hp => ?_
  rw [List.mem_pair, property?_eq_some_iff_of_mem hp, property?_eq_some_iff_of_mem hp]

/-- No name is that of a getter and of a predicate. -/
theorem property?_eq_none_of_is {p : Text} (h : property? (Text.ofString "is") m = some p) :
    property? (Text.ofString "get") m = none := by
  have hget : Text.after? (Text.ofString "get") m = none := by
    unfold property? at h
    split at h
    · next c rest hafter =>
      rw [Text.after?_eq_some_iff.mp hafter]
      simp [Text.ofString_eq, Text.after?]
    · cases h
  rw [property?, hget]

/-- A method that is not called as an assignment is called by such a name exactly when it has one,
or is an accessor for one. -/
theorem ofMethod_mem_iff : ((ofMethod m n).setter = false ∧
    (ofMethod m n).name ∈ plainKeywordMethods) ↔ m ∈ keywordMethods n := by
  have hnone := fun hm => property?_of_mem m hm
  rw [mem_keywordMethods_iff, mem_keywordGetters_iff]
  unfold ofMethod
  by_cases hone : n = 1
  · rw [if_pos hone, and_iff_right rfl, and_iff_right hone]
    cases hget : property? (Text.ofString "get") m with
    | some q =>
      have his : ∀ p, property? (Text.ofString "is") m ≠ some p := by
        intro p hp
        rw [property?_eq_none_of_is hp] at hget
        cases hget
      have hplain : m ∉ plainKeywordMethods := by
        intro hm
        rw [hnone hm _ (by simp)] at hget
        cases hget
      simp [his, hplain]
    | none =>
      cases his : property? (Text.ofString "is") m with
      | some q =>
        have hplain : m ∉ plainKeywordMethods := by
          intro hm
          rw [hnone hm _ (by simp)] at his
          cases his
        simp [hplain]
      | none => simp
  · rw [if_neg hone]
    by_cases htwo : n = 2
    · rw [if_pos htwo]
      cases hset : property? (Text.ofString "set") m with
      | some q =>
        have hplain : m ∉ plainKeywordMethods := by
          intro hm
          rw [hnone hm _ (by simp)] at hset
          cases hset
        simp [hone, hplain]
      | none => simp [hone]
    · rw [if_neg htwo]
      simp [hone]

end CallName

/-- A name among the convenient ones is a keyword exactly when it is one before, and no text is
taken. -/
theorem markText_mem_keywords_iff {name : Text} {returnsText takesText : Bool} :
    markText name returnsText takesText ∈ keywords ↔ name ∈ keywords ∧ takesText = false := by
  have hmark : ∀ k ∈ keywords,
      Text.endsWith [textMark] k = false ∧ textNames.contains k = false := by
    with_unfolding_all decide
  have hlong : ∀ t : Text, t ++ [textMark] ∉ keywords := by
    intro t hmem
    have hends := (hmark _ hmem).1
    rw [Text.endsWith_iff.mpr ⟨t, rfl⟩] at hends
    cases hends
  constructor
  · intro h
    unfold markText at h
    dsimp only at h
    split at h
    · split at h
      · exact absurd h (hlong _)
      · exact absurd h (hlong _)
    · split at h
      · exact absurd h (hlong _)
      · next htakes =>
        rw [(hmark name h).1] at htakes
        exact ⟨h, by simpa using htakes⟩
  · rintro ⟨hname, rfl⟩
    unfold markText
    rw [(hmark name hname).2, Bool.and_false]
    exact hname

/-! ## Names in declarations -/

namespace TargetDeclaration

/-- The names of a procedure and its parameters, of the parameters of a callback, or of the fields
of an object. A procedure that is called as an assignment has its name in quotation marks. -/
def names : TargetDeclaration → List Text
  | procedure head params =>
    (if head.setter then [] else [head.name]) ++ params.map (·.name)
  | callback _ params _ => params.map (·.name)
  | object _ _ fields => fields.map (·.name)

/-- None of the names is a keyword. -/
def AvoidsKeywords (t : TargetDeclaration) : Prop := ∀ name ∈ t.names, name ∉ keywords

end TargetDeclaration

/-- What the name of a function is behind the library's beginning, the variant and the receiver. -/
def Signature.stem? (handles : Handles) (s : Signature) : Option Text :=
  (bareName? s.name).map fun bare => ProcedureName.dropReceiver handles (effectiveParams s.params)
    (ProcedureName.wholeName bare s.name)

/-- Whether a function is called by a keyword: what its name is behind the receiver is that of a
method that is called so, or becomes one, and no convenient procedure is in the way. -/
def Signature.IsCalledByKeyword (handles : Handles) (s : Signature) : Prop :=
  ∃ stem, s.stem? handles = some stem ∧ stem ∉ keywords ∧
    (∃ m ∈ keywordMethods (effectiveParams s.params).length, stem = m ∨ stem = capital m) ∧
    takesText handles (effectiveParams s.params) = false

/-- Whether a declaration gives something a keyword for its name. For a parameter of a function that
is a keyword with a capital in front; for one of a callback and for a field it is the keyword
itself. -/
def Declaration.NamesKeyword (handles : Handles) : Declaration → Prop
  | function s => s.IsCalledByKeyword handles ∨
      ∃ p ∈ s.params, ∃ name ∈ p.name, name ∈ keywords.map capital
  | callback s => ∃ p ∈ s.params, ∃ name ∈ p.name, name ∈ keywords
  | struct r | union r => ∃ p ∈ r.keptFields, ∃ name ∈ p.name, name ∈ keywords
  | _ => False

section Declarations

variable {handles : Handles} {mode : UnionMode}

theorem mem_of_mem_keywords {k : Text} (h : k ∈ keywords) :
    k ∈ plainKeywordMethods ++ keywordGetters := by
  have hall : ∀ k ∈ keywords, k ∈ plainKeywordMethods ++ keywordGetters := by
    with_unfolding_all decide
  exact hall k h

/-- A C identifier becomes a keyword exactly when it is one with a capital in front. -/
theorem identifierName_mem_keywords_iff {name : Text} :
    identifierName name ∈ keywords ↔ name ∈ keywords.map capital := by
  have hcapital : ∀ k ∈ keywords, capital k ∉ keywords := by with_unfolding_all decide
  rw [List.mem_map]
  constructor
  · intro h
    obtain ⟨hname, hcase⟩ := (identifierName_eq_iff (mem_of_mem_keywords h)).mp rfl
    rcases hcase with he | he
    · exact absurd (he ▸ h) hname
    · exact ⟨_, h, he.symm⟩
  · rintro ⟨k, hk, rfl⟩
    rw [(identifierName_eq_iff (mem_of_mem_keywords hk)).mpr ⟨hcapital k hk, Or.inr rfl⟩]
    exact hk

/-- The name of a place is no keyword. -/
theorem placeName_not_mem_keywords (i : Nat) : placeName i ∉ keywords := by
  have hhead : ∀ k ∈ keywords, k.head? ≠ some 'p' := by with_unfolding_all decide
  exact fun h => hhead _ h rfl

/-- The name of a parameter is a keyword exactly when the declared one becomes one. -/
theorem paramName_mem_keywords_iff {k : Nat} {p : Param} :
    paramName k p ∈ keywords ↔ ∃ name ∈ p.name, name ∈ keywords.map capital := by
  have hnil : [] ∉ keywords := by with_unfolding_all decide
  cases hname : p.name with
  | none =>
    rw [paramName, hname]
    simpa using placeName_not_mem_keywords k
  | some name =>
    have hsome : (∃ n ∈ some name, n ∈ keywords.map capital) ↔ identifierName name ∈ keywords := by
      rw [identifierName_mem_keywords_iff]
      simp
    rw [hsome, paramName, hname, Option.map_some]
    cases identifierName name with
    | nil => exact iff_of_false (placeName_not_mem_keywords k) hnil
    | cons c rest => rfl

/-- A procedure has a keyword for its name exactly when it is called by one without an
assignment. -/
theorem head_name_mem_keywords_iff {s : Signature} {method : Text} :
    ((procedureNamed handles s method).1.setter = false ∧
      (procedureNamed handles s method).1.name ∈ keywords) ↔
      method ∈ keywordMethods (effectiveParams s.params).length ∧
        takesText handles (effectiveParams s.params) = false := by
  have hsetter : ∀ call : CallName, call.dropWide.setter = call.setter := by
    intro call
    unfold CallName.dropWide
    split <;> rfl
  unfold procedureNamed
  dsimp only
  rw [markText_mem_keywords_iff, CallName.dropWide_mem_keywords_iff, hsetter, ← and_assoc,
    CallName.ofMethod_mem_iff]

theorem keywordMethods_subset (n : Nat) :
    keywordMethods n ⊆ plainKeywordMethods ++ keywordGetters := by
  intro m hm
  rw [List.mem_append]
  exact (mem_keywordMethods_iff.mp hm).imp_right And.right

/-- A method has the name that is made of what is behind the receiver. -/
theorem exists_stem {s : Signature} {method : Text}
    (h : methodName handles s.name (effectiveParams s.params) = .ok method) :
    ∃ stem, s.stem? handles = some stem ∧ identifierName stem = method := by
  rw [methodName_eq, bareName] at h
  cases hbare : bareName? s.name with
  | none =>
    rw [hbare] at h
    cases h
  | some bare =>
    rw [hbare] at h
    exact ⟨_, congrArg (Option.map _) hbare, Except.ok.inj h⟩

/-- A function is called by a keyword exactly when its method is. -/
theorem isCalledByKeyword_iff {s : Signature} {method : Text}
    (h : methodName handles s.name (effectiveParams s.params) = .ok method) :
    s.IsCalledByKeyword handles ↔ method ∈ keywordMethods (effectiveParams s.params).length ∧
      takesText handles (effectiveParams s.params) = false := by
  obtain ⟨stem, hstem, rfl⟩ := exists_stem h
  have hmem : (stem ∉ keywords ∧
      ∃ m ∈ keywordMethods (effectiveParams s.params).length, stem = m ∨ stem = capital m) ↔
        identifierName stem ∈ keywordMethods (effectiveParams s.params).length := by
    constructor
    · rintro ⟨hkeyword, m, hm, hcase⟩
      rw [(identifierName_eq_iff (keywordMethods_subset _ hm)).mpr ⟨hkeyword, hcase⟩]
      exact hm
    · intro hm
      obtain ⟨hkeyword, hcase⟩ := (identifierName_eq_iff (keywordMethods_subset _ hm)).mp rfl
      exact ⟨hkeyword, _, hm, hcase⟩
  rw [← hmem, and_assoc]
  constructor
  · rintro ⟨other, hother, hcalled⟩
    cases hstem.symm.trans hother
    exact hcalled
  · exact fun hcalled => ⟨stem, hstem, hcalled⟩

/-- A procedure has a keyword among its names exactly when its function is called by one or gives it
to a parameter. -/
theorem avoidsKeywords_procedure_iff {s : Signature} {p : ProcedureHead × List BoundParam}
    (hp : procedureOf handles s = .ok p) :
    (TargetDeclaration.procedure p.1 p.2).AvoidsKeywords ↔
      ¬ (Declaration.function s).NamesKeyword handles := by
  obtain ⟨method, hmethod, rfl⟩ := exists_procedureNamed hp
  have hhead : (∀ name ∈ (if (procedureNamed handles s method).1.setter then []
      else [(procedureNamed handles s method).1.name]), name ∉ keywords) ↔
        ¬ s.IsCalledByKeyword handles := by
    rw [isCalledByKeyword_iff hmethod, ← head_name_mem_keywords_iff]
    cases (procedureNamed handles s method).1.setter <;> simp
  have hparams : (∀ name ∈ (procedureNamed handles s method).2.map (·.name), name ∉ keywords) ↔
      ¬ ∃ q ∈ s.params, ∃ name ∈ q.name, name ∈ keywords.map capital := by
    rw [List.forall_mem_map]
    constructor
    · rintro h ⟨q, hq, hkeyword⟩
      rcases mem_effectiveParams_or hq with heffective | rfl
      · obtain ⟨k, hk⟩ := List.mem_iff_getElem?.mp heffective
        exact h _ (mem_procedureNamed.mpr ⟨k, q, hk, rfl⟩) (paramName_mem_keywords_iff.mpr hkeyword)
      · obtain ⟨name, hname, _⟩ := hkeyword
        cases hname
    · intro h b hb hmem
      obtain ⟨k, q, hk, rfl⟩ := mem_procedureNamed.mp hb
      exact h ⟨q, effectiveParams_subset s.params (List.mem_of_getElem? hk),
        paramName_mem_keywords_iff.mp hmem⟩
  rw [TargetDeclaration.AvoidsKeywords, TargetDeclaration.names, List.forall_mem_append, hhead,
    hparams, Declaration.NamesKeyword, not_or]

/-- A callback has a keyword among its names exactly when it gives it to a parameter. -/
theorem avoidsKeywords_callback_iff {s : Signature} (name result : Text) :
    (TargetDeclaration.callback name
        (s.params.zipIdx.map fun p => callbackPart handles p.2 p.1) result).AvoidsKeywords ↔
      ¬ (Declaration.callback s).NamesKeyword handles := by
  rw [TargetDeclaration.AvoidsKeywords, TargetDeclaration.names, List.forall_mem_map]
  constructor
  · rintro h ⟨q, hq, n, hn, hkeyword⟩
    obtain ⟨k, hk⟩ := List.mem_iff_getElem?.mp hq
    refine h _ (mem_callbackParts.mpr ⟨k, q, hk, rfl⟩) ?_
    rw [callbackPart, Option.mem_def.mp hn]
    exact hkeyword
  · intro h b hb hmem
    obtain ⟨k, q, hk, rfl⟩ := mem_callbackParts.mp hb
    cases hname : q.name with
    | none =>
      rw [callbackPart, hname] at hmem
      exact placeName_not_mem_keywords k hmem
    | some n =>
      rw [callbackPart, hname] at hmem
      exact h ⟨q, List.mem_of_getElem? hk, n, hname, hmem⟩

/-- An object has a keyword among its names exactly when a field has it. -/
theorem avoidsKeywords_object_iff {r : Record} (pragmas : Text) :
    (r.target handles pragmas).AvoidsKeywords ↔
      ¬ ∃ p ∈ r.keptFields, ∃ name ∈ p.name, name ∈ keywords := by
  rw [TargetDeclaration.AvoidsKeywords, Record.target, TargetDeclaration.names, List.forall_mem_map]
  constructor
  · rintro h ⟨p, hp, name, hname, hkeyword⟩
    exact h _ (mem_fieldParts.mpr ⟨p, hp, name, hname, rfl⟩) hkeyword
  · intro h b hb hmem
    obtain ⟨p, hp, name, hname, rfl⟩ := mem_fieldParts.mp hb
    exact h ⟨p, hp, name, hname, hmem⟩

/-- **What is emitted avoids the keywords** exactly when no C name comes to be one again: as the
name of a method or an accessor, as that of a parameter by its capital, or unchanged as that of a
field or of a parameter of a callback. -/
theorem avoidsKeywords_iff {corpus : Corpus} {d : Declaration} {meaning : Meaning}
    (hmeaning : Meaning.ofDeclaration corpus mode handles d = .ok meaning)
    (htyped : d.IsTyped mode) : ∃ t, d.target? handles mode = some t ∧
      meaning = .binding t.binding ∧ (t.AvoidsKeywords ↔ ¬ d.NamesKeyword handles) := by
  obtain ⟨t, ht, hbinding⟩ := exists_target hmeaning htyped
  refine ⟨t, ht, hbinding, ?_⟩
  cases d with
  | function s =>
    obtain ⟨p, hp, rfl⟩ := target?_function_eq_some_iff.mp ht
    exact avoidsKeywords_procedure_iff hp
  | callback s =>
    obtain ⟨name, _, rfl⟩ := Option.map_eq_some_iff.mp ht
    exact avoidsKeywords_callback_iff name _
  | struct r =>
    rw [Declaration.target?, if_neg htyped] at ht
    cases ht
    exact avoidsKeywords_object_iff _
  | union r =>
    obtain ⟨rfl, hname⟩ := htyped
    rw [Declaration.target?, if_neg (by simp [hname])] at ht
    cases ht
    exact avoidsKeywords_object_iff _
  | «alias» name target => exact htyped.elim
  | enumeration name items => exact htyped.elim
  | handle name => exact htyped.elim

/-- A function whose parameters have keywords for their names. -/
def sensorFunction : Declaration :=
  .function
    { result := "void"
      name := "sfSensor_bind"
      params := [⟨"const sfSensor*", some "object"⟩, ⟨"int", some "type"⟩] }

/-- Its own name and those of its parameters are replaced. -/
theorem avoidsKeywords_sensorFunction : sensorFunction.IsTyped .object ∧
    ∃ t, sensorFunction.target? [Text.ofString "Sensor"] .object = some t ∧ t.AvoidsKeywords := by
  have hfault : sensorFunction.fault? 0 .object = none := by with_unfolding_all decide
  obtain ⟨meaning, hmeaning⟩ :=
    @Declaration.exists_ofDeclaration {} .object sensorFunction hfault [Text.ofString "Sensor"]
  obtain ⟨t, ht, _, havoids⟩ := avoidsKeywords_iff hmeaning trivial
  refine ⟨trivial, t, ht, havoids.mpr ?_⟩
  rintro (⟨stem, hstem, hkeyword, _⟩ | ⟨p, hp, hname⟩)
  · have hbind : stem = Text.ofString "bind" := by
      rw [← Option.some.injEq, ← hstem]
      with_unfolding_all decide
    subst hbind
    exact absurd hkeyword (by with_unfolding_all decide)
  · revert p
    with_unfolding_all decide

/-- A getter for a type. -/
def sensorGetter : Declaration :=
  .function ⟨"int", "sfSensor_getType", [⟨"const sfSensor*", some "sensor"⟩]⟩

/-- A record with a type. -/
def sensorRecord : Declaration := .struct ⟨"sfSensorData", [⟨"int", some "type"⟩]⟩

/-- A callback that is given an object. -/
def sensorCallback : Declaration := .callback ⟨"void", "sfSensorFunc", [⟨"void*", some "object"⟩]⟩

/-- The getter, the field and the parameter are called by keywords. -/
theorem not_avoidsKeywords_sensor :
    Meaning.ofDeclaration {} .object [Text.ofString "Sensor"] sensorGetter =
      .ok (.binding (.procedure
        [Text.ofString "proc type*(sensor: Sensor): cint \x7b." ++
          Text.ofString "\n  cdecl, importc: \"sfSensor_getType\".\x7d"])) ∧
    Meaning.ofDeclaration {} .object [] sensorRecord = .ok (.binding (.object
      (Text.ofString "type SensorData* \x7b.bycopy.\x7d = object")
      [Text.ofString "  type*: cint"])) ∧
    Meaning.ofDeclaration {} .object [] sensorCallback = .ok (.binding (.plain
      [Text.ofString "type SensorFunc* = proc(object: pointer): void \x7b.cdecl.\x7d"])) := by
  refine ⟨by with_unfolding_all decide, by with_unfolding_all decide, by with_unfolding_all decide⟩

end Declarations

end Bindery
