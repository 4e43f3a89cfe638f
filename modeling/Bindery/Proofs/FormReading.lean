import Bindery.Proofs.ConstantReading
import Bindery.Proofs.FunctionReading

/-!
# Reading canonical declarations

The pieces of an ordinary declaration, of whatever kind, are read as one content in one way only,
and what that content gives is the declaration.
-/

namespace Bindery.Canonical

open Header Reader Piece

variable {g : Phrases} {b : BaseType} {name : Identifier} {params : List Variable}
  {p q r t : Piece} {bs ss tail : List Piece} {n : Nat}

/-! ## Names of types -/

section Definitions

variable [g.TakeFront] (hg : g.IsAngled)

include hg

/-- A name with a semicolon behind it defines a type. -/
theorem isDefined_name (hnamed : IsNamed 0 name [] p) (hr : r.isMark ';' = true)
    (hordered : AreOrdered [p, r]) : IsDefined g [p, r] (.name (some name.text)) 0 r := by
  have hends : EndsPhrase [r] := .semicolon hr []
  obtain ⟨hread, hrests⟩ := hnamed.isFurthest_declarator hg
    (.ends hends : IsSuffixed .definition [r] id 0 [r]) hordered
  exact ⟨hnamed.endsType [r], group_eq_nil (isGroup_of_word? hnamed.word _),
    fun c _ => isMark_of_word? hnamed.word c, hread,
    fun y hy => Or.inl ((hrests y hy).elim id id), hr⟩

/-- The declarator of a callback. -/
def callbackDeclarator (n : Nat) (name : Identifier) (params : List Variable) : Declarator :=
  pointers n (.function (.parens (.pointer (.name (some name.text)))) (params.map Variable.param))

omit hg in
/-- A pointer with parameters behind it defines a callback. -/
theorem isDefined_callback (hss : AreStars n ss) (hp : IsCallbackGroup name p)
    (hq : IsParameterGroup params q) (hr : r.isMark ';' = true)
    (hordered : AreOrdered (ss ++ [p, q, r])) :
    ∃ w, IsDefined g (ss ++ [p, q, r]) (callbackDeclarator n name params) w r := by
  obtain ⟨v, hread⟩ := hp.definition
  have hinner : Place.definition.reading p.readings = some ⟨.pointer (.name (some name.text)), v⟩ :=
    hread
  obtain ⟨w, hparams, -⟩ := hq.params
  have hends : EndsPhrase [r] := .semicolon hr []
  have hsuffixed : IsSuffixed .definition [q, r] (.function · (params.map Variable.param)) (w + 0)
      [r] := .function hq.group hparams hends
  have hparens : EndsType [p, q, r] := endsType_of_isGroup hp.group (by decide) _
  obtain ⟨hread, hrests⟩ := Header.isFurthest_declarator (g := g) hss.isMark
    (fun _ => ⟨hparens.unmodified, isOneOf_of_isGroup hp.group _⟩)
    (declaratorUpTo_parens hp.group hinner) hsuffixed hordered
  rw [hss.length_eq] at hread hrests
  have hmark : ∀ c, '*' ≠ c → (ss ++ [p, q, r]).head?.any (·.isMark c) = false := by
    intro c hc
    cases ss with
    | nil => exact isMark_of_isGroup hp.group c
    | cons s ss => exact isMark_of_isMark (hss.isMark s List.mem_cons_self) hc
  refine ⟨_, endsType_of_stars hss fun _ => hparens, ?_, ?_, hread, ?_, hr⟩
  · cases ss with
    | nil => exact group_cons_of_none hp.params
    | cons s ss => exact group_eq_nil (isGroup_of_isMark (hss.isMark s List.mem_cons_self) _)
  · simp only [List.forall_mem_cons]
    exact ⟨hmark _ (by decide), hmark _ (by decide), List.forall_mem_nil _⟩
  · rintro y hy
    rcases hrests y hy with rfl | ⟨rfl, -⟩
    · exact Or.inl rfl
    · exact Or.inr hq.group

/-! ## Type definitions -/

/-- A base type is read up to the name behind it, or its second word is left to be the name. -/
theorem BaseType.IsShown.isFurthest_baseType (h : b.IsShown bs) (hb : b.avoids qualifiers = true)
    (hends : EndsType tail) (hordered : AreOrdered (bs ++ tail)) :
    IsFurthest (baseType g Keyword.types true) (bs ++ tail) ⟨.plain b.text, 0, tail⟩ ∧
      ∀ y ∈ baseType g Keyword.types true (bs ++ tail), y.rest = tail ∨
        ∃ q, q.word? = some ("int" : Text) ∧ y.rest = q :: tail := by
  cases h with
  | word hne hp =>
    have hread : baseType g Keyword.types true (_ :: tail) = _ :=
      (BaseType.isTypeWord hne hb reserves_types).baseType_eq hp hg reserves_types.primitives hends
        hordered
    have honly := readsOnly_of_eq hread
    exact ⟨honly.isFurthest, fun y hy => Or.inl (by rw [honly.others y hy])⟩
  | unsigned hp hq hspelling =>
    obtain ⟨hread, hrests⟩ := isFurthest_baseType_unsigned (g := g) hp hq reserves_types.unsigned
      hends hordered
    rw [hspelling] at hread
    exact ⟨hread, fun y hy => (hrests y hy).imp id fun hrest => ⟨_, hq, hrest⟩⟩

omit [g.TakeFront] hg in
private theorem int_words : ("int" : Text) ∉ Place.definition.reserved ∧
    ("int" : Text) ∉ Keyword.modifiers := by
  decide +kernel

/-- **A second name for a type, or a callback,** is read as the definition of that name. -/
theorem BaseType.IsShown.readsOnly_content (h : b.IsShown bs) (hb : b.avoids qualifiers = true)
    (ht : t.word? = some ("typedef" : Text)) {d : Declarator} {u : Int}
    (hd : IsDefined g tail d u r) (hordered : AreOrdered (bs ++ tail)) :
    ReadsOnly (content g true) (t :: (bs ++ tail)) ⟨.defined (.plain b.text) d.shape, u, []⟩ := by
  obtain ⟨hread, hrests⟩ := h.isFurthest_baseType (g := g) hg hb hd.ends hordered
  have hdefined := hread.bind (f := definedAs g) (fun y hy hlength => ?_) hd.readsOnly_definedAs
  · obtain ⟨p, ps, w, hcons, hp, -, hmodifiers⟩ := h.exists_eq_cons hb
    have hfront : bs ++ tail = p :: (ps ++ tail) := by rw [hcons, List.cons_append]
    rw [behind_mk, Int.zero_add, hfront] at hdefined
    rw [hfront]
    exact hdefined.of_eq (content_typedef_eq ht (isUnmodified_of_word? hp hmodifiers)
      ⟨isMark_of_word? hp _, isMark_of_word? hp _⟩)
  · obtain ⟨hreserved, hmodifiers⟩ := int_words
    rcases hrests y hy with hrest | ⟨q, hq, hrest⟩
    · rw [hrest] at hlength
      exact absurd hlength (Nat.lt_irrefl _)
    · rw [hrest]
      exact hd.definedAs_name_eq_nil hg hq hreserved hmodifiers

omit [g.TakeFront] hg in
/-- A tagged type with a name behind it is read as the definition of that name. -/
theorem readsOnly_content_tagged (ht : t.word? = some ("typedef" : Text)) {w : Text}
    (hp : p.word? = some w) (hw : w ∉ Keyword.modifiers) {ps : List Piece} {base : Header.BaseType}
    {d : Declarator} {u v : Int} (hd : IsDefined g tail d u r)
    (hbase : baseType g Keyword.types true (p :: (ps ++ tail)) = [⟨base, v, tail⟩]) :
    ReadsOnly (content g true) (t :: p :: (ps ++ tail)) ⟨.defined base d.shape, v + u, []⟩ :=
  ((readsOnly_of_eq hbase).isFurthest.bind (f := definedAs g) (fun y hy hlength => by
      rw [(readsOnly_of_eq hbase).others y hy] at hlength
      exact absurd hlength (Nat.lt_irrefl _)) hd.readsOnly_definedAs).of_eq
    (content_typedef_eq ht (isUnmodified_of_word? hp hw)
      ⟨isMark_of_word? hp _, isMark_of_word? hp _⟩)

end Definitions

/-! ## Declarations -/

/-- Pieces that are read as one content, in one way only, which gives a declaration. -/
def AreReadAs (depth : Nat) (ps : List Piece) (d : Declaration) : Prop :=
  ∃ c w, ReadsOnly (content (Phrases.upTo (depth + 1)) true) ps ⟨c, w, []⟩ ∧
    c.declarations = .ok [d]

/-- The tokens of an ordinary declaration are read as that declaration. -/
def Form.IsReadBack (d : Form) : Prop :=
  ∀ gap depth, ∃ ps, AreGrouped 0 (d.tokens gap) ps ∧ ps ≠ [] ∧ AreReadAs depth ps d.declaration

variable {gap : Text}

theorem exists_enclosed {vs : List Variable} (hvs : vs.all (·.isOrdinary operands) = true)
    (n : Nat) :
    ∃ q r, AreGrouped n (enclosedTokens vs) [q, r] ∧ IsParameterGroup vs q ∧
      r.isMark ';' = true := by
  obtain ⟨ips, hinside, hgroup⟩ := exists_isParameterGroup hvs [] [] n
  exact ⟨_, _, .group (encloses_of_mem (by decide)) hinside
    (.token (isLoose_ofMark (by decide)) .nil), hgroup, Token.isMark_ofMark _⟩

/-- A name and the semicolon behind it. -/
theorem exists_named (name : Identifier) (n : Nat) :
    ∃ p r, AreGrouped n [.ofWord [' '] name.text, .ofMark [] ';'] [p, r] ∧
      p.word? = some name.text ∧ r.isMark ';' = true :=
  ⟨_, _, .token (isLoose_ofWord _) (.token (isLoose_ofMark (by decide)) .nil), rfl,
    Token.isMark_ofMark _⟩

/-- Fields in braces, and a name and the semicolon behind them. -/
theorem exists_fields {fields : List Variable} (hfields : fields.all (·.isOrdinary []) = true)
    (name : Identifier) (n : Nat) :
    ∃ q p r, AreGrouped n (.ofMark [' '] '{' ::
        ((fields.flatMap fun v => v.tokens [' '] ++ [.ofMark [] ';']) ++
          [.ofMark [' '] '}', .ofWord [' '] name.text, .ofMark [] ';'])) [q, p, r] ∧
      IsFieldGroup fields q ∧ p.word? = some name.text ∧ r.isMark ';' = true := by
  obtain ⟨ips, hinside, hgroup⟩ := exists_isFieldGroup hfields [' '] [' '] n
  obtain ⟨p, r, hnamed, hp, hr⟩ := exists_named name
    (n + (fields.flatMap fun v => v.tokens [' '] ++ [.ofMark [] ';']).length + 2)
  exact ⟨_, p, r, .group (encloses_of_mem (by decide)) hinside hnamed, hgroup, hp, hr⟩

theorem exists_members {c : Constant} {cs : List Constant}
    (hcs : (c :: cs).all Constant.isOrdinary = true) (n : Nat) :
    ∃ q, AreGrouped n (Form.memberTokens c cs) [q] ∧ IsEnumerationGroup (c :: cs) q := by
  obtain ⟨ips, hinside, hgroup⟩ := exists_isEnumerationGroup hcs [' '] [' '] n
  exact ⟨_, .group (encloses_of_mem (by decide)) hinside .nil, hgroup⟩

theorem isReadBack_function {result : BaseType} {n : Nat} {name : Identifier}
    {params : List Variable} (h : (Form.function result n name params).isOrdinary = true) :
    (Form.function result n name params).IsReadBack := by
  intro gap depth
  simp only [Form.isOrdinary, Bool.and_eq_true] at h
  obtain ⟨⟨hresult, hname⟩, hparams⟩ := h
  obtain ⟨bs, hbs, hbase⟩ := result.exists_isShown gap 0
  obtain ⟨ss, hstars, hss⟩ := exists_areStars n (0 + (result.tokens gap).length)
  obtain ⟨q, r, hbehind, hq, hr⟩ := exists_enclosed hparams
    (0 + (result.tokens gap).length + (starTokens n).length + 1)
  let p : Piece := .token (0 + (result.tokens gap).length + (starTokens n).length)
    (.ofWord [' '] name.text)
  have hgrouped : AreGrouped 0 ((Form.function result n name params).tokens gap)
      (bs ++ (ss ++ [p, q, r])) := hbs.append (hstars.append (.token (isLoose_ofWord _) hbehind))
  have hfunction : IsFunction result n name params bs ss p q r :=
    ⟨hbase, ⟨hss, rfl, hname⟩, hq, hr⟩
  obtain ⟨w, hread⟩ := hfunction.readsOnly_content hresult hgrouped.areOrdered
  exact ⟨_, hgrouped, by simp, _, w, hread, declarations_functionDeclarator result n name params⟩

theorem isReadBack_synonym {name : Identifier} {target : BaseType}
    (h : (Form.synonym name target).isOrdinary = true) : (Form.synonym name target).IsReadBack := by
  intro gap depth
  simp only [Form.isOrdinary, Bool.and_eq_true] at h
  obtain ⟨htarget, hname⟩ := h
  obtain ⟨bs, hbs, hbase⟩ := target.exists_isShown [' '] 1
  obtain ⟨p, r, hnamed, hp, hr⟩ := exists_named name (1 + (target.tokens [' ']).length)
  let t : Piece := .token 0 (.ofWord gap "typedef")
  have ht : t.word? = some ("typedef" : Text) := rfl
  have hgrouped : AreGrouped 0 ((Form.synonym name target).tokens gap) (t :: (bs ++ [p, r])) :=
    .token (isLoose_ofWord _) (hbs.append hnamed)
  have hordered : AreOrdered (bs ++ [p, r]) :=
    hgrouped.areOrdered.sublist (List.sublist_cons_self _ _)
  have hdefined := isDefined_name (isAngled_upTo (depth + 1)) ⟨⟨rfl, by simp⟩, hp, hname⟩ hr
    (hordered.sublist (List.sublist_append_right _ _))
  have hread := hbase.readsOnly_content (isAngled_upTo (depth + 1)) htarget ht hdefined hordered
  exact ⟨_, hgrouped, List.cons_ne_nil _ _, _, _, hread, rfl⟩

/-- What the definition of a callback gives. -/
theorem declarations_callbackDeclarator (b : BaseType) (n : Nat) (name : Identifier)
    (params : List Variable) :
    (Content.defined (.plain b.text) (callbackDeclarator n name params).shape).declarations =
      .ok [(Form.callback b n name params).declaration] := by
  rw [callbackDeclarator, shape_pointers]
  simp [Content.declarations, definitionOf, Declarator.shape, Form.declaration,
    Header.BaseType.name, stars]

theorem isReadBack_callback {result : BaseType} {n : Nat} {name : Identifier}
    {params : List Variable} (h : (Form.callback result n name params).isOrdinary = true) :
    (Form.callback result n name params).IsReadBack := by
  intro gap depth
  simp only [Form.isOrdinary, Bool.and_eq_true] at h
  obtain ⟨⟨hresult, hname⟩, hparams⟩ := h
  obtain ⟨bs, hbs, hbase⟩ := result.exists_isShown [' '] 1
  obtain ⟨ss, hstars, hss⟩ := exists_areStars n (1 + (result.tokens [' ']).length)
  obtain ⟨ips, hinside, hp⟩ := exists_isCallbackGroup hname [' '] []
    (1 + (result.tokens [' ']).length + (starTokens n).length)
  obtain ⟨q, r, hbehind, hq, hr⟩ := exists_enclosed hparams
    (1 + (result.tokens [' ']).length + (starTokens n).length + 2 + 2)
  let t : Piece := .token 0 (.ofWord gap "typedef")
  have ht : t.word? = some ("typedef" : Text) := rfl
  have hgrouped : AreGrouped 0 ((Form.callback result n name params).tokens gap)
      (t :: (bs ++ (ss ++ [_, q, r]))) :=
    .token (isLoose_ofWord _) (hbs.append (hstars.append
      (.group (encloses_of_mem (by decide)) hinside hbehind)))
  have hordered := hgrouped.areOrdered.sublist (List.sublist_cons_self _ _)
  obtain ⟨w, hdefined⟩ := isDefined_callback (g := Phrases.upTo (depth + 1)) hss hp hq hr
    (hordered.sublist (List.sublist_append_right _ _))
  have hread := hbase.readsOnly_content (isAngled_upTo (depth + 1)) hresult ht hdefined hordered
  exact ⟨_, hgrouped, List.cons_ne_nil _ _, _, _, hread,
    declarations_callbackDeclarator result n name params⟩

private theorem tag_words : ∀ w ∈ Keyword.tags, w ∈ Keyword.types ∧ w ∈ Keyword.statements ∧
    w ∉ Keyword.modifiers := by
  decide +kernel

/-! ## Tagged types -/

section Tagged

variable {ps front : List Piece} {w : Text} {make : Text → Header.BaseType} {v : Int} {depth : Nat}
  {d : Declaration}

/-- The name behind a tagged type, and the semicolon behind it. -/
theorem isDefined_behind (hp : p.word? = some name.text) (hname : name.avoids qualifiers = true)
    (hr : r.isMark ';' = true) (front : List Piece) (hordered : AreOrdered (front ++ [p, r]))
    (depth : Nat) :
    IsDefined (Phrases.upTo (depth + 1)) [p, r] (.name (some name.text)) 0 r :=
  isDefined_name (isAngled_upTo (depth + 1)) ⟨⟨rfl, by simp⟩, hp, hname⟩ hr
    (hordered.sublist (List.sublist_append_right _ _))

/-- A tagged type that is read in one way is defined as the name behind it. -/
theorem areReadAs_tagged (front : List Piece) (ht : t.word? = some ("typedef" : Text))
    (hp : p.word? = some w) (hw : w ∈ Keyword.tags)
    (htail : IsDefined (Phrases.upTo (depth + 1)) tail (.name (some name.text)) 0 r)
    (htype : taggedType (Phrases.upTo (depth + 1)) (p :: (front ++ tail)) = [⟨make, v, tail⟩])
    (hordered : AreOrdered (p :: (front ++ tail)))
    (hd : (Content.defined (make (spelling (p :: front)))
      (Declarator.name (some name.text)).shape).declarations = .ok [d]) :
    AreReadAs depth (t :: p :: (front ++ tail)) d := by
  obtain ⟨htypes, -, hmodifiers⟩ := tag_words w hw
  have hbase : baseType _ Keyword.types true _ = _ :=
    baseType_of_taggedType front hp hw htypes htype
      (htail.ends.head_of_subset (by simp [typeLeads])) hordered
  exact ⟨_, _, readsOnly_content_tagged ht hp hmodifiers htail hbase, hd⟩

/-- An enumeration that is read in one way is declared where nothing but a semicolon stands behind
it. -/
theorem areReadAs_enum (front : List Piece) (hp : p.word? = some ("enum" : Text))
    (hr : r.isMark ';' = true) (hunscoped : IsUnscoped (front ++ [r]))
    (htype : taggedType (Phrases.upTo (depth + 1)) (p :: (front ++ [r])) = [⟨make, v, [r]⟩])
    (hordered : AreOrdered (p :: (front ++ [r])))
    (hd : (Content.tagged (make (spelling (p :: front)))).declarations = .ok [d]) :
    AreReadAs depth (p :: (front ++ [r])) d := by
  have htag : ("enum" : Text) ∈ Keyword.tags := by simp [Keyword.tags]
  obtain ⟨-, hstatements, -⟩ := tag_words _ htag
  have hends : EndsPhrase [r] := .semicolon hr []
  have hbase : baseType _ Keyword.statements false _ = _ :=
    baseType_of_taggedType front hp htag hstatements htype (hends.isOneOf _) hordered
  exact ⟨_, _, readsOnly_content_enum hp hr hunscoped hbase, hd⟩

end Tagged

/-- A structure or a union with its fields in braces is read as its definition. -/
theorem exists_areReadAs_record (isUnion : Bool) {name : Identifier} {fields : List Variable}
    (hname : name.avoids qualifiers = true) (hfields : fields.all (·.isOrdinary []) = true)
    (gap : Text) (depth : Nat) :
    ∃ ps, AreGrouped 0 (.ofWord gap "typedef" ::
        Form.recordTokens (recordWord isUnion) name fields) ps ∧ ps ≠ [] ∧
      AreReadAs depth ps (recordDeclaration isUnion name.text (fields.map Variable.param)) := by
  obtain ⟨q, p, r, hnamed, hq, hp, hr⟩ := exists_fields hfields name 2
  let t : Piece := .token 0 (.ofWord gap "typedef")
  let s : Piece := .token 1 (.ofWord [' '] (recordWord isUnion))
  have hs : s.word? = some (recordWord isUnion) := rfl
  have hgrouped : AreGrouped 0 (.ofWord gap "typedef" ::
      Form.recordTokens (recordWord isUnion) name fields) (t :: s :: ([q] ++ [p, r])) :=
    .token (isLoose_ofWord _) (.token (isLoose_ofWord _) hnamed)
  have hordered := hgrouped.areOrdered.sublist (List.sublist_cons_self _ _)
  have hdefined := isDefined_behind hp hname hr [s, q] hordered depth
  have hparts := recordParts_group (g := Phrases.upTo (depth + 1)) hq.group hq.members
    hdefined.ends.unmodified.attributes
  have htag : recordWord isUnion ∈ Keyword.tags := by
    cases isUnion <;> simp [recordWord, Keyword.tags]
  exact ⟨_, hgrouped, List.cons_ne_nil _ _, areReadAs_tagged [q] rfl hs htag hdefined
    (taggedType_record hs hparts) hordered rfl⟩

/-- An enumeration with its members in braces and a name behind them. -/
theorem isReadBack_enumeration {name : Identifier} {c : Constant} {cs : List Constant}
    (hname : name.avoids qualifiers = true) (hcs : (c :: cs).all Constant.isOrdinary = true) :
    (Form.enumeration (some name) c cs).IsReadBack := by
  intro gap depth
  obtain ⟨q, hmembers, hq⟩ := exists_members hcs 2
  obtain ⟨items, hitems⟩ := hq.enumerators
  obtain ⟨p, r, hnamed, hp, hr⟩ := exists_named name (2 + (Form.memberTokens c cs).length)
  let t : Piece := .token 0 (.ofWord gap "typedef")
  let s : Piece := .token 1 (.ofWord [' '] "enum")
  have hs : s.word? = some ("enum" : Text) := rfl
  have hgrouped : AreGrouped 0 ((Form.enumeration (some name) c cs).tokens gap)
      (t :: s :: ([q] ++ [p, r])) :=
    .token (isLoose_ofWord _) (.token (isLoose_ofWord _) (hmembers.append hnamed))
  have hordered := hgrouped.areOrdered.sublist (List.sublist_cons_self _ _)
  have hdefined := isDefined_behind hp hname hr [s, q] hordered depth
  have hparts := enumerationParts_group (g := Phrases.upTo (depth + 1)) hq.group hitems
    hdefined.ends.unmodified.attributes
  have htag : ("enum" : Text) ∈ Keyword.tags := by simp [Keyword.tags]
  exact ⟨_, hgrouped, List.cons_ne_nil _ _, areReadAs_tagged [q] rfl hs htag hdefined
    (taggedType_enum hs hparts) hordered rfl⟩

theorem isReadBack_handle {name : Identifier} (h : (Form.handle name).isOrdinary = true) :
    (Form.handle name).IsReadBack := by
  intro gap depth
  have havoids : name.avoids (Keyword.closures ++ qualifiers) = true := h
  have hname : name.avoids qualifiers = true :=
    Identifier.avoids_of_subset havoids (List.subset_append_right _ _)
  have hrecords := name.not_mem havoids covers_records
  obtain ⟨p, r, hnamed, hp, hr⟩ := exists_named name 3
  let t : Piece := .token 0 (.ofWord gap "typedef")
  let s : Piece := .token 1 (.ofWord [' '] "struct")
  let q : Piece := .token 2 (.ofWord [' '] name.text)
  have hs : s.word? = some (recordWord false) := rfl
  have hq : q.word? = some name.text := rfl
  have hgrouped : AreGrouped 0 ((Form.handle name).tokens gap) (t :: s :: ([q] ++ [p, r])) :=
    .token (isLoose_ofWord _) (.token (isLoose_ofWord _) (.token (isLoose_ofWord _) hnamed))
  have hordered := hgrouped.areOrdered.sublist (List.sublist_cons_self _ _)
  have hdefined := isDefined_behind hp hname hr [s, q] hordered depth
  have hclosures : ([p, r] : List Piece).head?.any (·.isOneOf Keyword.closures) = false := by
    have hnot : name.text ∉ Keyword.closures := fun hmem => hrecords (by simp [hmem])
    simpa [isOneOf_of_word? hp] using hnot
  have hparts := recordParts_name (isAngled_upTo (depth + 1)) hq
    (fun hmem => hrecords (List.mem_append_left _ hmem)) (name.not_mem hname covers_modifiers)
    hdefined.ends hclosures (isGroup_of_word? hp _)
    (hordered.sublist (List.sublist_cons_self _ _))
  have htag : recordWord false ∈ Keyword.tags := by simp [recordWord, Keyword.tags]
  exact ⟨_, hgrouped, List.cons_ne_nil _ _, areReadAs_tagged [q] rfl hs htag hdefined
    (taggedType_record hs hparts) hordered rfl⟩

theorem isReadBack_members {c : Constant} {cs : List Constant}
    (hcs : (c :: cs).all Constant.isOrdinary = true) : (Form.enumeration none c cs).IsReadBack := by
  intro gap depth
  obtain ⟨q, hmembers, hq⟩ := exists_members hcs 1
  obtain ⟨items, hitems⟩ := hq.enumerators
  let s : Piece := .token 0 (.ofWord gap "enum")
  let r : Piece := .token (1 + (Form.memberTokens c cs).length) (.ofMark [] ';')
  have hs : s.word? = some ("enum" : Text) := rfl
  have hr : r.isMark ';' = true := Token.isMark_ofMark _
  have hends : EndsPhrase [r] := .semicolon hr []
  have hgrouped : AreGrouped 0 ((Form.enumeration none c cs).tokens gap) (s :: ([q] ++ [r])) :=
    .token (isLoose_ofWord _) (hmembers.append (.token (isLoose_ofMark (by decide)) .nil))
  have hparts := enumerationParts_group (g := Phrases.upTo (depth + 1)) hq.group hitems
    hends.isUnmodified.attributes
  have hunscoped : IsUnscoped ([q] ++ [r]) :=
    ⟨isMark_of_isGroup hq.group _, isMark_of_isGroup hq.group _⟩
  exact ⟨_, hgrouped, List.cons_ne_nil _ _, areReadAs_enum [q] hs hr hunscoped
    (taggedType_enum hs hparts) hgrouped.areOrdered rfl⟩

theorem isReadBack_marker (name : Identifier) : (Form.marker name).IsReadBack := by
  intro gap depth
  obtain ⟨q, r, hnamed, hq, hr⟩ := exists_named name 1
  let s : Piece := .token 0 (.ofWord gap "enum")
  have hs : s.word? = some ("enum" : Text) := rfl
  have hends : EndsPhrase [r] := .semicolon hr []
  have hgrouped : AreGrouped 0 ((Form.marker name).tokens gap) (s :: ([q] ++ [r])) :=
    .token (isLoose_ofWord _) hnamed
  have hparts := enumerationParts_name (isAngled_upTo (depth + 1)) hq
    (name.not_mem name.avoids_nil covers_enumerations) hends.endsType (hends.isGroup _)
    (hgrouped.areOrdered.sublist (List.sublist_cons_self _ _))
  rw [sourceOf_of_word? hq] at hparts
  have hunscoped : IsUnscoped ([q] ++ [r]) := ⟨isMark_of_word? hq _, isMark_of_word? hq _⟩
  exact ⟨_, hgrouped, List.cons_ne_nil _ _, areReadAs_enum [q] hs hr hunscoped
    (taggedType_enum hs hparts) hgrouped.areOrdered rfl⟩

/-- **An ordinary declaration**, of whatever kind, is read as it is written. -/
theorem Form.isReadBack {d : Form} (hd : d.isOrdinary = true) : d.IsReadBack := by
  cases d with
  | function => exact isReadBack_function hd
  | callback => exact isReadBack_callback hd
  | synonym => exact isReadBack_synonym hd
  | handle => exact isReadBack_handle hd
  | struct name field fields =>
    simp only [Form.isOrdinary, Bool.and_eq_true] at hd
    exact exists_areReadAs_record false hd.1 hd.2
  | union name field fields =>
    simp only [Form.isOrdinary, Bool.and_eq_true] at hd
    exact exists_areReadAs_record true hd.1 hd.2
  | enumeration name item items =>
    simp only [Form.isOrdinary, Bool.and_eq_true] at hd
    cases name with
    | none => exact isReadBack_members hd.2
    | some name => exact isReadBack_enumeration hd.1 hd.2
  | marker name => exact isReadBack_marker name

end Bindery.Canonical
