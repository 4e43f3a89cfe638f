import Bindery.Proofs.VariableReading

/-!
# Reading fields

The pieces of a field and the semicolon behind them are read as that field. They are no function, as
no body stands behind the name, no constructor, as a base type alone is no name with parameters
behind it, and no conversion, as nothing begins as one does.
-/

namespace Bindery.Canonical

open Header Reader Piece

variable {g : Phrases} {b : BaseType} {v : Variable} {p q : Piece}
  {cs bs ss tail ps rest : List Piece} {special reserved : List Text} {constant : Bool} {w : Text}

/-! ## What is no field -/

theorem takeModifier?_const (hp : p.word? = some ("const" : Text)) (ps : List Piece) :
    takeModifier? (p :: ps) = some (true, ps) := by
  have hqualifier : p.isOneOf Keyword.qualifiers = true := by
    rw [isOneOf_of_word? hp]
    with_unfolding_all decide
  have hconst : p.isOneOf ["const"] = true := by
    rw [isOneOf_of_word? hp]
    with_unfolding_all decide
  rw [takeModifier?, takeQualifier?, hqualifier, hconst]
  rfl

/-- Of the modifiers of a base type the one that makes it constant is skipped. -/
theorem dropAll_constructorModifier (hcs : IsConstShown constant cs) (h : b.IsShown bs)
    (hb : b.avoids qualifiers = true) (ps : List Piece) :
    dropAll dropConstructorModifier? (cs ++ (bs ++ ps)) = bs ++ ps := by
  obtain ⟨p, qs, w, hcons, hp, hopening, hmodifier⟩ := h.exists_eq_cons hb
  have hexplicit : p.isOneOf ["explicit"] = false := by
    have hnot : w ≠ ("explicit" : Text) := fun he => hopening (he ▸ by with_unfolding_all decide)
    simpa [isOneOf_of_word? hp] using hnot
  have hnone : dropConstructorModifier? (bs ++ ps) = none := by
    rw [hcons, List.cons_append, dropConstructorModifier?,
      (isUnmodified_of_word? hp hmodifier).takeModifier?, hexplicit]
    rfl
  cases hcs with
  | no => exact dropAll_eq hnone
  | yes hc =>
    refine dropAll_cons ?_ hnone
    rw [dropConstructorModifier?, takeModifier?_const hc]
    rfl

private theorem declarators_words : (∀ w ∈ (["void", "int", "char", "float"] : List Text),
      w ∉ Keyword.declarators) ∧ ("unsigned" : Text) ∈ Keyword.declarators ∧
    ("unsigned" : Text) ∉ (["decltype", "template", "operator", "__based"] : List Text) := by
  decide +kernel

/-- A base type declares no function where no parentheses follow. -/
theorem isFunction_eq_false_of_mem_declarator (h : b.IsShown bs) (hb : b.avoids qualifiers = true)
    (hg : g.IsAngled) (hparens : ps.head?.any (·.isGroup '(') = false) (hends : EndsType ps) :
    ∀ y ∈ declarator g .declaration (bs ++ ps), y.value.isFunction = false := by
  intro y hy
  replace hy := mem_settle _ hy
  obtain ⟨hbuiltin, hunsigned, hspecial⟩ := declarators_words
  cases h with
  | @unsigned p q hp =>
    have hreserved : ("unsigned" : Text) ∈ Place.reserved .declaration := hunsigned
    have hnil : declaratorUpTo g .declaration (([p, q] ++ ps).length + 1) (p :: q :: ps) = [] :=
      declaratorUpTo_eq_nil hp hreserved hspecial _
    exact absurd (hnil ▸ hy) List.not_mem_nil
  | @word b p hne hp =>
    have hw : b.text ∉ Place.reserved .declaration := by
      cases b with
      | unsignedInt => exact absurd rfl hne
      | named name => exact Identifier.not_mem_reserved hb .declaration
      | _ => exact hbuiltin _ (by simp [BaseType.text])
    have hread := declaratorUpTo_name hg hp hw hends.unscoped (ps.length + 1)
    rw [declaratorSuffixes_eq (group_eq_nil hparens) hends.unmodified.group] at hread
    have hone : y ∈ declaratorUpTo g .declaration (ps.length + 1 + 1) (p :: ps) := hy
    rw [hread, List.map_singleton, List.mem_singleton] at hone
    rw [hone]
    rfl

/-- So it is no head of a constructor. -/
theorem constructorHead_eq_nil (hcs : IsConstShown constant cs) (h : b.IsShown bs)
    (hb : b.avoids qualifiers = true) (hg : g.IsAngled)
    (hparens : ps.head?.any (·.isGroup '(') = false) (hends : EndsType ps) (reserved : List Text) :
    constructorHead g reserved (cs ++ (bs ++ ps)) = [] := by
  have hskip : skip (dropAll dropConstructorModifier?) (cs ++ (bs ++ ps)) =
      [⟨(), 0, bs ++ ps⟩] := by
    rw [skip, dropAll_constructorModifier hcs h hb]
  refine (bind_of_eq hskip).trans (bind_eq_nil_of_forall fun x hx => ?_)
  have hrest : x.rest = bs ++ ps := by
    unfold check at hx
    split at hx
    · rw [List.mem_singleton.mp hx]
    · exact absurd hx List.not_mem_nil
  rw [hrest]
  refine bind_eq_nil_of_forall fun y hy => ?_
  rw [isFunction_eq_false_of_mem_declarator h hb hg hparens hends y hy]
  rfl

/-- The first word of a base type is no scope. -/
theorem BaseType.IsShown.isUnscoped {qs : List Piece} (h : b.IsShown (p :: qs))
    (hps : IsUnscoped ps) : IsUnscoped (qs ++ ps) := by
  cases h with
  | word => exact hps
  | unsigned _ hq => exact ⟨isMark_of_word? hq _, isMark_of_word? hq _⟩

/-- A base type begins no conversion. -/
theorem conversionHead_eq_nil (hcs : IsConstShown constant cs) (h : b.IsShown bs)
    (hb : b.avoids qualifiers = true) (hends : EndsType ps) :
    conversionHead g (cs ++ (bs ++ ps)) = [] := by
  have hskip : skip (dropAll dropConstructorModifier?) (cs ++ (bs ++ ps)) =
      [⟨(), 0, bs ++ ps⟩] := by
    rw [skip, dropAll_constructorModifier hcs h hb]
  obtain ⟨p, qs, w, hcons, hp, hopening, -⟩ := h.exists_eq_cons hb
  have hunscoped : IsUnscoped (qs ++ ps) := BaseType.IsShown.isUnscoped (hcons ▸ h) hends.unscoped
  have hscopes : scopes g Keyword.statements (bs ++ ps) = [] := by
    rw [hcons, List.cons_append]
    exact bind_eq_nil (check_eq_nil (mayBeScope_eq_false (isMark_of_word? hp _) hunscoped))
  have hoperator : word ["operator"] (bs ++ ps) = [] := by
    rw [hcons, List.cons_append]
    refine word_eq_nil_of_word? hp fun hmem => hopening ?_
    rw [List.mem_singleton.mp hmem]
    with_unfolding_all decide
  exact (bind_of_eq hskip).trans ((bind_of_eq (optional_of_eq_nil hscopes)).trans
    (bind_eq_nil hoperator))

/-! ## Fields -/

instance [g.TakeFront] : TakesFront (fieldDeclarator g) := by
  unfold fieldDeclarator
  infer_instance

/-- What stands behind the declarator of a field, if anything: its width in bits, or an initial
value. -/
def behindField (g : Phrases) (d : Declarator) : Reader Declarator := do
  pure () <|> (do mark ':'; let _ ← g.expression false) <|> group '{' (·.initializer) <|> do
    mark '='
    check fun ps => !ps.head?.any (·.isOneOf ["default"])
    (do let _ ← g.expression false) <|> group '{' (·.initializer)
  return d

theorem fieldDeclarator_eq (g : Phrases) :
    fieldDeclarator g = settle (declarator g .field >>= behindField g) := rfl

theorem behindField_eq (d : Declarator) (hcolon : ps.head?.any (·.isMark ':') = false)
    (hequals : ps.head?.any (·.isMark '=') = false)
    (hbrace : ps.head?.any (·.isGroup '{') = false) : behindField g d ps = [⟨d, 0, ps⟩] :=
  bind_of_eq (orElse_of_right_eq_nil (orElse_eq_nil (bind_eq_nil (mark_eq_nil hcolon))
    (orElse_eq_nil (group_eq_nil hbrace) (bind_eq_nil (mark_eq_nil hequals)))))

namespace Variable.HasParts

variable [g.TakeFront] (h : v.HasParts cs bs ss p tail) (hg : g.IsAngled) (hrest : EndsPhrase rest)
  (hordered : AreOrdered (ss ++ p :: (tail ++ rest)))

include h hg hrest hordered in
/-- The name of a field is read with what stands behind it, or without it. -/
theorem isFurthest_fieldDeclarator :
    IsFurthest (fieldDeclarator g) (ss ++ p :: (tail ++ rest)) ⟨v.declared, v.stars, rest⟩ ∧
      ∀ y ∈ fieldDeclarator g (ss ++ p :: (tail ++ rest)),
        y.rest = rest ∨ y.rest = tail ++ rest := by
  obtain ⟨hfurthest, hrests⟩ := h.named.isFurthest_declarator hg
    (h.size.isSuffixed hrest .field) hordered
  rw [Int.add_zero] at hfurthest
  have hkeeps : ∀ y ∈ declarator g .field (ss ++ p :: (tail ++ rest)),
      behindField g y.value y.rest = [⟨y.value, 0, y.rest⟩] := by
    intro y hy
    rcases hrests y hy with hy | hy <;> rw [hy]
    · exact behindField_eq _ (hrest.isMark (by decide) (by decide))
        (hrest.isMark (by decide) (by decide)) (hrest.isGroup _)
    · exact behindField_eq _ (h.size.isMark (hrest.isMark (by decide) (by decide)))
        (h.size.isMark (hrest.isMark (by decide) (by decide))) (h.size.isGroup hrest (by decide))
  have hread := hfurthest.bind_of_forall (f := behindField g) (fun y hy => ⟨_, hkeeps y hy⟩)
    (hkeeps _ hfurthest.mem)
  have hfront : TakesFront (declarator g .field >>= behindField g) := by
    unfold behindField
    infer_instance
  rw [fieldDeclarator_eq]
  refine ⟨hread.settle hordered, fun y hy => ?_⟩
  obtain ⟨x, hx, z, hz, rfl⟩ := mem_bind.mp (mem_settle _ hy)
  have hz' : z ∈ behindField g x.value x.rest := hz
  rw [hkeeps x hx, List.mem_singleton] at hz'
  rw [hz']
  exact hrests x hx

include h in
/-- No piece of a name with the size behind it ends a field or begins an attribute. -/
theorem isMark_and_isOneOf : ∀ x ∈ ss ++ p :: tail,
    x.isMark ';' = false ∧ x.isOneOf Keyword.attributes = false := by
  have hattributes : v.name.text ∉ Keyword.attributes := fun hmem =>
    v.name.not_mem h.named.avoids_qualifiers covers_modifiers (attributes_subset_modifiers hmem)
  obtain ⟨-, -, ⟨hss, hp, -⟩, hsize⟩ := h
  rw [List.forall_mem_append, List.forall_mem_cons]
  refine ⟨fun s hs => ?_, ⟨isMark_of_word? hp _, by simpa [isOneOf_of_word? hp] using hattributes⟩,
    fun x hx => ?_⟩
  · exact ⟨isMark_of_isMark (hss.isMark s hs) (by decide), isOneOf_of_isMark (hss.isMark s hs) _⟩
  · generalize v.size = size at hsize
    cases hsize with
    | none => exact absurd hx List.not_mem_nil
    | some hbracket =>
      obtain rfl := List.mem_singleton.mp hx
      exact ⟨isMark_of_isGroup hbracket.group _, isOneOf_of_isGroup hbracket.group _⟩

end Variable.HasParts

section Field

variable [g.TakeFront] (h : v.HasParts cs bs ss p tail) (hv : v.isOrdinary [] = true)
  (hg : g.IsAngled) (hq : q.isMark ';' = true)
  (hordered : AreOrdered (cs ++ (bs ++ (ss ++ p :: (tail ++ q :: rest)))))

include h hv hg hq hordered

/-- **A field** is read with the semicolon behind it. -/
theorem Variable.HasParts.readsOnly_fields :
    ReadsOnly (fields g) (cs ++ (bs ++ (ss ++ p :: (tail ++ q :: rest))))
      ⟨[v.param], v.stars, rest⟩ := by
  rw [Variable.isOrdinary, Bool.and_eq_true] at hv
  have hrest : EndsPhrase (q :: rest) := .semicolon hq rest
  have hspecifiers := specifiers_eq h.constant h.base hv.1 reserves_members hg
    (h.named.endsType _) hordered
  have hordered' : AreOrdered (ss ++ p :: (tail ++ q :: rest)) :=
    hordered.sublist ((List.sublist_append_right _ _).trans (List.sublist_append_right _ _))
  obtain ⟨hfurthest, hrests⟩ := h.isFurthest_fieldDeclarator hg hrest hordered'
  have hcommas := hfurthest.commas (fun y hy => by
    rcases hrests y hy with hy | hy <;> rw [hy]
    · exact isMark_of_isMark hq (by decide)
    · exact h.size.isMark (isMark_of_isMark hq (by decide))) (by simp)
  have hread := hcommas.orElse_left (s := pure []) fun y hy => by
    obtain rfl := mem_pure.mp hy
    right
    simp
    omega
  let ending (ds : List Declarator) : Reader (List Param) := do
    skip (dropOptional dropAttribute?)
    mark ';'
    return if ds.isEmpty then [paramOf ⟨.plain v.base.text, v.isConst⟩ {}]
      else ds.map fun d => paramOf ⟨.plain v.base.text, v.isConst⟩ d.shape
  have hwhole := hread.bind (f := ending) (z := ⟨[v.param], 0, rest⟩) (fun y hy hlength => ?_)
    (readsOnly_of_eq ?_)
  · rw [behind_mk, Int.add_zero] at hwhole
    exact hwhole.of_eq (bind_of_eq hspecifiers)
  · -- What is left otherwise begins with a piece of the name or the size.
    have hsuffix := TakesFront.suffix hy
    rw [← List.cons_append, ← List.append_assoc] at hsuffix
    obtain ⟨x, hx, xs, hxs⟩ := exists_mem_of_length_lt hsuffix hlength
    obtain ⟨hsemicolon, hattributes⟩ := h.isMark_and_isOneOf x hx
    have hmark : mark ';' (x :: xs) = [] := mark_eq_nil hsemicolon
    have hskip : skip (dropOptional dropAttribute?) (x :: xs) = [⟨(), 0, x :: xs⟩] :=
      dropOptionalAttribute_eq hattributes
    rw [hxs]
    exact (bind_of_eq hskip).trans (bind_eq_nil hmark)
  · have hattributes : (q :: rest).head?.any (·.isOneOf Keyword.attributes) = false :=
      isOneOf_of_isMark hq _
    refine (bind_of_eq (dropOptionalAttribute_eq hattributes)).trans
      ((bind_of_eq (mark_cons hq rest)).trans ?_)
    rw [← v.paramOf_declared]
    rfl

/-- **A member** of a structure that is a field is nothing else. -/
theorem Variable.HasParts.readsOnly_member :
    ReadsOnly (member g) (cs ++ (bs ++ (ss ++ p :: (tail ++ q :: rest))))
      ⟨[v.param], v.stars, rest⟩ := by
  have hfields := h.readsOnly_fields hv hg hq hordered
  rw [Variable.isOrdinary, Bool.and_eq_true] at hv
  obtain ⟨r, qs, w, hcons, hr, hopening⟩ := h.exists_eq_cons hv.1
  have hrest : EndsPhrase (q :: rest) := .semicolon hq rest
  have hordered' : AreOrdered (ss ++ p :: (tail ++ q :: rest)) :=
    hordered.sublist ((List.sublist_append_right _ _).trans (List.sublist_append_right _ _))
  obtain ⟨-, hrests⟩ := h.named.isFurthest_declarator hg
    (h.size.isSuffixed hrest .field) hordered'
  have hends := h.named.endsType (tail ++ q :: rest)
  have hparens : (ss ++ p :: (tail ++ q :: rest)).head?.any (·.isGroup '(') = false :=
    h.named.isGroup _
  have hconstructor :=
    constructorHead_eq_nil h.constant h.base hv.1 hg hparens hends Keyword.members
  have hconversion := conversionHead_eq_nil (g := g) h.constant h.base hv.1 hends
  have hspecifiers := specifiers_eq h.constant h.base hv.1 reserves_members hg hends hordered
  have hmethod : method g (cs ++ (bs ++ (ss ++ p :: (tail ++ q :: rest)))) = [] := by
    refine orElse_eq_nil ?_ (orElse_eq_nil ?_ (orElse_eq_nil (bind_eq_nil hconstructor)
      (orElse_eq_nil (bind_eq_nil hconstructor) (orElse_eq_nil (bind_eq_nil hconversion)
        (bind_eq_nil hconversion)))))
    · refine functionDefinition_eq_nil ?_ (readsOnly_of_eq hspecifiers) ?_ fun y hy => ?_
      · have hnot : w ∉ Keyword.conventions := fun hmem => hopening (by simp [openings, hmem])
        rw [← List.append_assoc, hcons]
        simpa [isOneOf_of_word? hr] using hnot
      · refine h.named.isOneOf (fun hmem => v.name.not_mem_openings ?_) List.suffix_rfl
        simp [openings, hmem]
      · rcases hrests y hy with hy | hy <;> rw [hy]
        · exact ⟨hrest.isGroup _, hrest.isOneOf _⟩
        · exact ⟨h.size.isGroup hrest (by decide), h.size.isOneOf hrest _⟩
    · refine (bind_of_eq hspecifiers).trans (bind_eq_nil_of_forall fun y hy => bind_eq_nil ?_)
      rcases hrests y hy with hy | hy <;> rw [hy]
      · exact mark_eq_nil (hrest.isMark (by decide) (by decide))
      · exact mark_eq_nil (h.size.isMark (hrest.isMark (by decide) (by decide)))
  have hothers : ((do word ["public", "private", "protected"]; mark ':')
      <|> friendDeclaration g
      <|> templateDeclaration g
      <|> aliasDeclaration g
      <|> usingDeclaration g
      <|> (do let _ ← typeDefinition g)
      <|> assertion g
      <|> directive
      <|> conditional (·.members.isSome)
      <|> mark ';' : Reader Unit) (cs ++ (bs ++ (ss ++ p :: (tail ++ q :: rest)))) = [] := by
    rw [← List.append_assoc, hcons]
    refine BeginsWith.eq_nil hr (fun hmem => hopening ?_) _
    exact (by decide +kernel : _ ⊆ openings) hmem
  refine hfields.of_eq (orElse_of_right_eq_nil (bind_eq_nil (orElse_eq_nil hmethod hothers)))

end Field

/-- Fields are the members that they show. -/
theorem AreFields.exists_isRow [g.TakeFront] {vs : List Variable} (h : AreFields vs ps)
    (hvs : vs.all (·.isOrdinary []) = true) (hg : g.IsAngled) (hordered : AreOrdered ps) :
    ∃ w, IsRow (member g) ps (vs.map fun v => [v.param]) w := by
  induction h with
  | nil => exact ⟨0, .nil⟩
  | @cons v vs ps rest q hv hq _ ih =>
    rw [List.all_cons, Bool.and_eq_true] at hvs
    obtain ⟨cs, bs, ss, p, tail, rfl, hparts⟩ := hv.exists_hasParts hvs.1
    obtain ⟨w, hrow⟩ := ih hvs.2 (hordered.sublist
      ((List.sublist_cons_self q rest).trans (List.sublist_append_right _ _)))
    have hfront : cs ++ (bs ++ (ss ++ p :: tail)) ++ q :: rest =
        cs ++ (bs ++ (ss ++ p :: (tail ++ q :: rest))) := by simp
    rw [hfront] at hordered ⊢
    refine ⟨v.stars + w, .cons (hparts.readsOnly_member hvs.1 hg hq hordered) ?_ ?_ hrow⟩
    · rw [← hfront]
      exact (List.suffix_cons q rest).trans (List.suffix_append _ _)
    · simp
      omega

/-- **Fields** between braces are read as the fields of a structure or union. -/
theorem AreFields.members?_eq [g.TakeFront] {vs : List Variable} (h : AreFields vs ps)
    (hvs : vs.all (·.isOrdinary []) = true) (hg : g.IsAngled) (hordered : AreOrdered ps) :
    members? g ps = some (vs.map Variable.param) := by
  obtain ⟨w, hrow⟩ := h.exists_isRow hvs hg hordered
  rw [members?, hrow.all hordered, Option.map_some, ← List.flatMap_def, ← List.map_eq_flatMap]

/-- The braces around fields. -/
structure IsFieldGroup (vs : List Variable) (p : Piece) : Prop where
  /-- They are braces. -/
  group : p.isGroup '{' = true
  /-- They are read as fields. -/
  members : p.readings.members = some (vs.map Variable.param)

theorem exists_isFieldGroup {vs : List Variable} (hvs : vs.all (·.isOrdinary []) = true)
    (gap gap' : Text) (n : Nat) :
    ∃ ips, AreGrouped (n + 1) (vs.flatMap fun v => v.tokens [' '] ++ [.ofMark [] ';']) ips ∧
      IsFieldGroup vs (.enclosed n (.ofMark gap '{') (.ofMark gap' '}')
        (vs.flatMap fun v => v.tokens [' '] ++ [.ofMark [] ';']) ips) := by
  obtain ⟨ips, hgrouped, hfields⟩ := exists_areFields vs (n + 1)
  refine ⟨ips, hgrouped, isGroup_enclosed _ _ _ _ _, ?_⟩
  rw [members_enclosed]
  exact hfields.members?_eq hvs (isAngled_upTo _) hgrouped.areOrdered

end Bindery.Canonical
