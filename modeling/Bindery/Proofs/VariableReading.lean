import Bindery.Header.Member
import Bindery.Proofs.CanonicalPieces
import Bindery.Proofs.Vocabulary

/-!
# Reading types, parameters and fields

A base type is read in one way, as none of its words has another meaning. A name with the stars
before it and the size behind it is read as a declarator, or without the size. So the pieces of a
parameter are read as that parameter or leave some of them, and the pieces of a field are read as
that field.
-/

namespace Bindery.Canonical

open Header Reader Piece

variable {g : Phrases} {b : BaseType} {name : Identifier} {p q : Piece}
  {ps bs ss tail rest : List Piece} {words special reserved : List Text} {n : Nat}

/-! ## Base types -/

/-- Words with a meaning where a base type begins, which an ordinary one is none of if it avoids
some special words. -/
structure Reserves (special reserved : List Text) : Prop where
  /-- All other identifiers have no meaning or are types by themselves. -/
  covers : Covers (special ++ Keyword.primitives) reserved
  /-- The types by themselves are among them. -/
  primitives : Keyword.primitives ⊆ reserved
  /-- So is the word that makes a number one without a sign. -/
  unsigned : ("unsigned" : Text) ∈ reserved
  /-- Words that qualify a type are special. -/
  qualifiers : qualifiers ⊆ special

theorem reserves_types : Reserves qualifiers Keyword.types where
  covers := covers_types
  primitives := fun w hw => by simp [Keyword.types, hw]
  unsigned := by simp [Keyword.types, Keyword.sizes]
  qualifiers := List.Subset.refl _

theorem reserves_parameters : Reserves (operands ++ qualifiers) Keyword.parameters where
  covers := covers_parameters
  primitives := fun w hw => by simp [Keyword.parameters, reserves_types.primitives hw]
  unsigned := by simp [Keyword.parameters, reserves_types.unsigned]
  qualifiers := List.subset_append_right _ _

theorem reserves_statements : Reserves (operands ++ qualifiers) Keyword.statements where
  covers := covers_statements
  primitives := fun w hw => by simp [Keyword.statements, reserves_parameters.primitives hw]
  unsigned := by simp [Keyword.statements, reserves_parameters.unsigned]
  qualifiers := List.subset_append_right _ _

theorem reserves_members : Reserves ([] ++ qualifiers) Keyword.members where
  covers := covers_members
  primitives := fun w hw => by simp [Keyword.members, reserves_types.primitives hw]
  unsigned := by simp [Keyword.members, reserves_types.unsigned]
  qualifiers := List.subset_append_right _ _

private theorem builtin_words : ∀ w ∈ (["void", "int", "char", "float"] : List Text),
    w ∉ Keyword.sizes ++ openings ∧ w ∈ Keyword.primitives ∧ w ∉ Keyword.modifiers ∧
      Text.normalize w = w := by
  decide +kernel

private theorem unsigned_words : ("unsigned" : Text) ∉ openings ∧
    ("unsigned" : Text) ∉ Keyword.modifiers := by
  decide +kernel

namespace BaseType

theorem avoids_of_subset (h : b.avoids special = true) (hsub : words ⊆ special) :
    b.avoids words = true := by
  cases b with
  | named name => exact Identifier.avoids_of_subset h hsub
  | _ => rfl

theorem isTypeWord (hne : b ≠ .unsignedInt) (h : b.avoids special = true)
    (hreserved : Reserves special reserved) : IsTypeWord reserved b.text := by
  have hbuiltin : ∀ w ∈ (["void", "int", "char", "float"] : List Text),
      IsTypeWord reserved w := by
    intro w hw
    obtain ⟨hwhole, hknown, -, hnormal⟩ := builtin_words w hw
    exact ⟨fun hmem => hwhole (typeLeads_subset hmem), Or.inl hknown, hnormal⟩
  cases b with
  | unsignedInt => exact absurd rfl hne
  | named name =>
    refine ⟨fun hmem => name.not_mem_openings (typeLeads_subset hmem), ?_,
      normalize_of_isName name.isName⟩
    by_cases hprimitive : name.text ∈ Keyword.primitives
    · exact Or.inl hprimitive
    · have havoids : name.avoids Keyword.primitives = true := by
        simpa [Identifier.avoids] using hprimitive
      exact Or.inr (Identifier.not_mem (Identifier.avoids_append h havoids) hreserved.covers)
  | _ => exact hbuiltin _ (by simp [text])

namespace IsShown

/-- A base type begins with a word that begins nothing else. -/
theorem exists_eq_cons (h : b.IsShown bs) (hb : b.avoids qualifiers = true) :
    ∃ p qs w, bs = p :: qs ∧ p.word? = some w ∧ w ∉ openings ∧ w ∉ Keyword.modifiers := by
  cases h with
  | unsigned hp => exact ⟨_, _, _, rfl, hp, unsigned_words⟩
  | @word b p hne hp =>
    refine ⟨p, [], _, rfl, hp, ?_⟩
    have hbuiltin : ∀ w ∈ (["void", "int", "char", "float"] : List Text),
        w ∉ openings ∧ w ∉ Keyword.modifiers := by
      intro w hw
      obtain ⟨hopenings, -, hmodifiers, -⟩ := builtin_words w hw
      exact ⟨fun hmem => hopenings (List.mem_append_right _ hmem), hmodifiers⟩
    cases b with
    | unsignedInt => exact absurd rfl hne
    | named name =>
      exact ⟨fun hmem => name.not_mem_openings (List.mem_append_right _ hmem),
        name.not_mem hb covers_modifiers⟩
    | _ => exact hbuiltin _ (by simp [BaseType.text])

/-- **A base type** is read in one way only. -/
theorem baseType_eq (h : b.IsShown bs) (hb : b.avoids special = true)
    (hreserved : Reserves special reserved) (hg : g.IsAngled) (hrest : EndsType rest)
    (hordered : AreOrdered (bs ++ rest)) :
    baseType g reserved false (bs ++ rest) = [⟨.plain b.text, 0, rest⟩] := by
  cases h with
  | word hne hp =>
    exact (isTypeWord hne hb hreserved).baseType_eq hp hg hreserved.primitives hrest hordered
  | unsigned hp hq hspelling =>
    have hread := baseType_unsigned (g := g) hp hq hreserved.unsigned hrest hordered
    rwa [hspelling] at hread

end IsShown

end BaseType

/-- The base type of a declaration is read with what makes it constant. -/
theorem specifiers_eq {cs : List Piece} {constant : Bool} (hcs : IsConstShown constant cs)
    (h : b.IsShown bs) (hb : b.avoids special = true) (hreserved : Reserves special reserved)
    (hg : g.IsAngled) (hrest : EndsType rest) (hordered : AreOrdered (cs ++ (bs ++ rest))) :
    specifiers g reserved (cs ++ (bs ++ rest)) =
      [⟨⟨.plain b.text, constant⟩, 0, rest⟩] := by
  have hbs : AreOrdered (bs ++ rest) := hordered.sublist (List.sublist_append_right _ _)
  obtain ⟨p, qs, w, hcons, hp, -, hw⟩ :=
    h.exists_eq_cons (BaseType.avoids_of_subset hb hreserved.qualifiers)
  have hunmodified : IsUnmodified (bs ++ rest) := by
    rw [hcons, List.cons_append]
    exact isUnmodified_of_word? hp hw
  have hread := h.baseType_eq hb hreserved hg hrest hbs
  have hbehind := hrest.unmodified.modifiers_eq
  cases hcs with
  | no =>
    rw [List.nil_append, specifiers, bind_of_eq hunmodified.modifiers_eq, bind_of_eq hread,
      bind_of_eq hbehind]
    rfl
  | yes hc =>
    rw [List.singleton_append, specifiers, bind_of_eq (hunmodified.modifiers_const hc),
      bind_of_eq hread, bind_of_eq hbehind]
    rfl

/-! ## Names -/

/-- What stands behind a base type: stars, and something that does not go on with a type. -/
theorem endsType_of_stars (hss : AreStars n ss) (h : ss = [] → EndsType ps) :
    EndsType (ss ++ ps) := by
  cases ss with
  | nil => exact h rfl
  | cons s ss =>
    have hs : s.isMark '*' = true := hss.isMark s List.mem_cons_self
    exact ⟨⟨isMark_of_isMark hs (by decide), isMark_of_isMark hs (by decide)⟩,
      ⟨isOneOf_of_isMark hs _, isGroup_of_isMark hs _⟩, isOneOf_of_isMark hs _⟩

theorem endsType_of_name (hp : p.word? = some name.text) (hname : name.avoids qualifiers = true) :
    EndsType (p :: ps) where
  unscoped := ⟨isMark_of_word? hp _, isMark_of_word? hp _⟩
  unmodified := isUnmodified_of_word? hp (name.not_mem hname covers_modifiers)
  word := by
    have hnot : name.text ∉ typeLeads := fun hmem => name.not_mem_openings (typeLeads_subset hmem)
    simpa [isOneOf_of_word? hp] using hnot

theorem endsStar_of_name (hp : p.word? = some name.text)
    (hname : name.avoids (qualifiersBehind (n + 1)) = true) : EndsStar (p :: ps) where
  unmodified := (endsType_of_name hp (Identifier.avoids_qualifiers hname)).unmodified
  pointer := by
    have hnot : name.text ∉ Keyword.pointers := name.not_mem hname covers_pointers
    simpa [isOneOf_of_word? hp] using hnot

theorem Identifier.not_mem_reserved (h : name.avoids qualifiers = true) (place : Place) :
    name.text ∉ place.reserved := by
  cases place with
  | declaration => exact name.not_mem h covers_declarators
  | field => exact name.not_mem h covers_fields
  | definition =>
    exact name.not_mem h (covers_definitions.of_subset (List.subset_append_left _ _))

/-- Stars and a name behind them that has no meaning there. -/
structure IsNamed (n : Nat) (name : Identifier) (ss : List Piece) (p : Piece) : Prop where
  /-- There are so many stars. -/
  stars : AreStars n ss
  /-- The name stands behind them. -/
  word : p.word? = some name.text
  /-- It does not qualify a type or a pointer. -/
  avoids : name.avoids (qualifiersBehind n) = true

namespace IsNamed

theorem avoids_qualifiers (h : IsNamed n name ss p) : name.avoids qualifiers = true :=
  Identifier.avoids_qualifiers h.avoids

theorem endsStar (h : IsNamed n name ss p) (hne : ss ≠ []) : EndsStar (p :: ps) := by
  obtain ⟨hss, hp, hname⟩ := h
  cases n with
  | zero => exact absurd (List.length_eq_zero_iff.mp hss.length_eq) hne
  | succ n => exact endsStar_of_name hp hname

theorem endsType (h : IsNamed n name ss p) (ps : List Piece) : EndsType (ss ++ p :: ps) :=
  endsType_of_stars h.stars fun _ => endsType_of_name h.word h.avoids_qualifiers

theorem any_eq_false {f : Piece → Bool} (h : IsNamed n name ss p) {left : List Piece}
    (hleft : left <:+ ss) (hp : f p = false)
    (hstar : ∀ q : Piece, q.isMark '*' = true → f q = false) :
    (left ++ p :: ps).head?.any f = false := by
  cases left with
  | nil => exact hp
  | cons s left => exact hstar s (h.stars.isMark s (hleft.subset List.mem_cons_self))

theorem isMark (h : IsNamed n name ss p) {c : Char} (hc : '*' ≠ c) :
    (ss ++ p :: ps).head?.any (·.isMark c) = false :=
  h.any_eq_false List.suffix_rfl (isMark_of_word? h.word c) fun _ hq => isMark_of_isMark hq hc

theorem isGroup (h : IsNamed n name ss p) (c : Char) :
    (ss ++ p :: ps).head?.any (·.isGroup c) = false :=
  h.any_eq_false List.suffix_rfl (isGroup_of_word? h.word c) fun _ hq => isGroup_of_isMark hq c

theorem isOneOf (h : IsNamed n name ss p) (hw : name.text ∉ words) {left : List Piece}
    (hleft : left <:+ ss) : (left ++ p :: ps).head?.any (·.isOneOf words) = false :=
  h.any_eq_false hleft (by simpa [isOneOf_of_word? h.word] using hw) fun _ hq =>
    isOneOf_of_isMark hq words

variable [g.TakeFront] {place : Place} {make : Declarator → Declarator} {u : Int}

/-- **A name** with the stars before it and what stands behind it is read as a declarator, or
without what stands behind it. -/
theorem isFurthest_declarator (h : IsNamed n name ss p) (hg : g.IsAngled)
    (htail : IsSuffixed place tail make u rest) (hordered : AreOrdered (ss ++ p :: tail)) :
    IsFurthest (declarator g place) (ss ++ p :: tail)
        ⟨pointers n (make (.name (some name.text))), n + u, rest⟩ ∧
      ∀ y ∈ declarator g place (ss ++ p :: tail), y.rest = rest ∨ y.rest = tail := by
  have hread := Header.isFurthest_declarator (u := 0) h.stars.isMark h.endsStar
    (fun k => declaratorUpTo_name hg h.word
      (Identifier.not_mem_reserved h.avoids_qualifiers place) htail.isUnscoped k) htail hordered
  rw [h.stars.length_eq, Int.zero_add] at hread
  refine ⟨hread.1, fun y hy => ?_⟩
  rcases hread.2 y hy with rfl | ⟨rfl, -⟩
  · exact Or.inl rfl
  · exact Or.inr rfl

end IsNamed

/-- An array of so many elements, if a number is given. -/
def sized : Option Nat → Declarator → Declarator
  | none, d => d
  | some n, d => .array d (Text.ofNat n)

namespace IsSizeShown

variable {size : Option Nat}

theorem isSuffixed (h : IsSizeShown size tail) (hrest : EndsPhrase rest) (place : Place) :
    IsSuffixed place (tail ++ rest) (sized size) 0 rest := by
  cases h with
  | none => exact .ends hrest
  | some hp hsize => exact .array hp hsize hrest

theorem isMark (h : IsSizeShown size tail) {c : Char}
    (hrest : rest.head?.any (·.isMark c) = false) :
    (tail ++ rest).head?.any (·.isMark c) = false := by
  cases h with
  | none => exact hrest
  | some hp => exact isMark_of_isGroup hp.group c

theorem isGroup (h : IsSizeShown size tail) (hrest : EndsPhrase rest) {c : Char} (hc : '[' ≠ c) :
    (tail ++ rest).head?.any (·.isGroup c) = false := by
  cases h with
  | none => exact hrest.isGroup c
  | some hp => exact isGroup_of_isGroup hp.group hc

theorem isOneOf (h : IsSizeShown size tail) (hrest : EndsPhrase rest) (words : List Text) :
    (tail ++ rest).head?.any (·.isOneOf words) = false := by
  cases h with
  | none => exact hrest.isOneOf words
  | some hp => exact isOneOf_of_isGroup hp.group words

end IsSizeShown

/-- How the name of a parameter or a field is used to reach a value of the base type. -/
def Variable.declared (v : Variable) : Declarator :=
  pointers v.stars (sized v.size (.name (some v.name.text)))

/-- What a parameter or a field is, from its base type and its declarator. -/
theorem Variable.paramOf_declared (v : Variable) :
    paramOf ⟨.plain v.base.text, v.isConst⟩ v.declared.shape = v.param := by
  rw [declared, shape_pointers, param, paramOf, typeOf]
  cases v.size with
  | none => simp [sized, Declarator.shape, elementType, Canonical.stars, Header.BaseType.name]
  | some k =>
    have hopening : (" [" : Text) = [' ', '['] := by with_unfolding_all decide
    have hclosing : ("]" : Text) = [']'] := by with_unfolding_all decide
    simp [sized, Declarator.shape, elementType, Canonical.stars, Header.BaseType.name, hopening,
      hclosing]

/-! ## Parameters -/

theorem attributes_subset_modifiers : Keyword.attributes ⊆ Keyword.modifiers :=
  fun w hw => by simp [Keyword.modifiers, hw]

/-- The pieces of a parameter or a field: what makes its type constant, the base type, the stars and
the name, and the size. -/
structure Variable.HasParts (v : Variable) (cs bs ss : List Piece) (p : Piece)
    (tail : List Piece) : Prop where
  /-- What makes the type constant. -/
  constant : IsConstShown v.isConst cs
  /-- The base type. -/
  base : v.base.IsShown bs
  /-- The stars and the name. -/
  named : IsNamed v.stars v.name ss p
  /-- The size. -/
  size : IsSizeShown v.size tail

namespace Variable

variable {v : Variable} {cs : List Piece}

theorem IsShown.exists_hasParts (h : v.IsShown ps) (hv : v.isOrdinary special = true) :
    ∃ cs bs ss p tail, ps = cs ++ (bs ++ (ss ++ p :: tail)) ∧ v.HasParts cs bs ss p tail := by
  rw [isOrdinary, Bool.and_eq_true] at hv
  obtain ⟨hcs, hbs, hss, hp, htail⟩ := h
  exact ⟨_, _, _, _, _, rfl, hcs, hbs, ⟨hss, hp, hv.2⟩, htail⟩

namespace HasParts

/-- It begins with a word that begins nothing else. -/
theorem exists_eq_cons (h : v.HasParts cs bs ss p tail) (hv : v.base.avoids qualifiers = true) :
    ∃ q qs w, cs ++ bs = q :: qs ∧ q.word? = some w ∧ w ∉ openings := by
  obtain ⟨constant, base, stars, name, size⟩ := v
  obtain ⟨hcs, hbs, -, -⟩ := h
  cases hcs with
  | no =>
    obtain ⟨p, qs, w, hcons, hp, hw, -⟩ := BaseType.IsShown.exists_eq_cons hbs hv
    exact ⟨p, qs, w, hcons, hp, hw⟩
  | yes hc => exact ⟨_, _, _, rfl, hc, by with_unfolding_all decide⟩

variable [g.TakeFront]

/-- The declarator with or without a name, or none, behind the base type of a parameter. -/
theorem isFurthest_anyDeclarator (h : v.HasParts cs bs ss p tail) (hg : g.IsAngled)
    (hrest : EndsPhrase rest) (hordered : AreOrdered (ss ++ p :: (tail ++ rest))) :
    IsFurthest (declarator g .declaration <|> abstractDeclarator g <|> pure .nameless)
        (ss ++ p :: (tail ++ rest)) ⟨v.declared, v.stars, rest⟩ ∧
      ∀ y ∈ (declarator g .declaration <|> abstractDeclarator g <|> pure .nameless)
          (ss ++ p :: (tail ++ rest)),
        y.rest.head?.any (·.isOneOf Keyword.attributes) = false := by
  obtain ⟨hfurthest, hrests⟩ := h.named.isFurthest_declarator hg
    (h.size.isSuffixed hrest .declaration) hordered
  rw [Int.add_zero] at hfurthest
  have hothers : ∀ y ∈ (abstractDeclarator g <|> pure .nameless) (ss ++ p :: (tail ++ rest)),
      ∃ left, left <:+ ss ∧ y.rest = left ++ p :: (tail ++ rest) := by
    intro y hy
    rcases mem_orElse.mp hy with hy | hy
    · exact exists_rest_eq_of_mem_abstractUpTo h.named.stars.isMark h.named.word h.named.endsStar hy
    · obtain rfl := mem_pure.mp hy
      exact ⟨ss, List.suffix_rfl, rfl⟩
  have hattributes : v.name.text ∉ Keyword.attributes := fun hmem =>
    v.name.not_mem h.named.avoids_qualifiers covers_modifiers (attributes_subset_modifiers hmem)
  refine ⟨hfurthest.orElse_left fun y hy => Or.inr ?_, fun y hy => ?_⟩
  · obtain ⟨left, -, hy⟩ := hothers y hy
    rw [hy]
    simp
    omega
  · rcases mem_orElse.mp hy with hy | hy
    · rcases hrests y hy with hy | hy
      · exact hy ▸ hrest.isOneOf _
      · exact hy ▸ h.size.isOneOf hrest _
    · obtain ⟨left, hleft, hy⟩ := hothers y hy
      exact hy ▸ h.named.isOneOf hattributes hleft

/-- **A parameter** is read as what it is, or some of its pieces are left. -/
theorem isFurthest_parameter (h : v.HasParts cs bs ss p tail)
    (hv : v.isOrdinary operands = true) (hg : g.IsAngled) (hrest : EndsPhrase rest)
    (hordered : AreOrdered (cs ++ (bs ++ (ss ++ p :: (tail ++ rest))))) :
    IsFurthest (parameter g false) (cs ++ (bs ++ (ss ++ p :: (tail ++ rest))))
      ⟨some v.param, v.stars, rest⟩ := by
  rw [Variable.isOrdinary, Bool.and_eq_true] at hv
  obtain ⟨q, qs, w, hcons, hq, hopening⟩ :=
    h.exists_eq_cons (BaseType.avoids_of_subset hv.1 (List.subset_append_right _ _))
  have hfront : ∀ ps, cs ++ (bs ++ ps) = q :: (qs ++ ps) := fun ps => by
    rw [← List.append_assoc, hcons, List.cons_append]
  have hellipsis : (do symbol "..."; return none : Reader (Option Param))
      (cs ++ (bs ++ (ss ++ p :: (tail ++ rest)))) = [] := by
    rw [hfront]
    exact bind_eq_nil (BeginsWith.eq_nil hq List.not_mem_nil _)
  have hthis : word ["this"] (cs ++ (bs ++ (ss ++ p :: (tail ++ rest)))) = [] := by
    rw [hfront]
    refine word_eq_nil_of_word? hq fun hmem => hopening ?_
    rw [List.mem_singleton.mp hmem]
    with_unfolding_all decide
  have hspecifiers := specifiers_eq h.constant h.base hv.1 reserves_parameters hg
    (h.named.endsType _) hordered
  have hordered' : AreOrdered (ss ++ p :: (tail ++ rest)) :=
    hordered.sublist ((List.sublist_append_right _ _).trans (List.sublist_append_right _ _))
  obtain ⟨hany, hattributes⟩ := h.isFurthest_anyDeclarator hg hrest hordered'
  obtain ⟨-, hrests⟩ := h.named.isFurthest_declarator hg
    (h.size.isSuffixed hrest .declaration) hordered'
  let given (d : Declarator) : Reader (Option Param) := do
    attributes
    return some (paramOf ⟨.plain v.base.text, v.isConst⟩ d.shape)
  have hgiven : ∀ d ps, ps.head?.any (·.isOneOf Keyword.attributes) = false →
      given d ps = [⟨some (paramOf ⟨.plain v.base.text, v.isConst⟩ d.shape), 0, ps⟩] :=
    fun d ps hps => bind_of_eq (attributes_eq hps)
  have hfirst := hany.bind_of_forall (f := given)
    (fun y hy => ⟨_, hgiven _ _ (hattributes y hy)⟩) (hgiven _ _ (hrest.isOneOf _))
  rw [v.paramOf_declared] at hfirst
  have hreference : referenceMark (ss ++ p :: (tail ++ rest)) = [] :=
    referenceMark_eq_nil (h.named.isMark (by decide))
  have hdefault : ∀ x ∈ optional (declarator g .declaration <|> (do
        referenceMark
        let _ ← optional (abstractDeclarator g)
        return .nameless)) (ss ++ p :: (tail ++ rest)), mark '=' x.rest = [] := by
    intro x hx
    rcases rest_of_mem_optional hx with ⟨y, hy, hxy⟩ | hx
    · rw [orElse_of_right_eq_nil (bind_eq_nil hreference)] at hy
      rw [hxy]
      rcases hrests y hy with hy | hy <;> rw [hy]
      · exact mark_eq_nil (hrest.isMark (by decide) (by decide))
      · exact mark_eq_nil (h.size.isMark (hrest.isMark (by decide) (by decide)))
    · rw [hx]
      exact mark_eq_nil (h.named.isMark (by decide))
  have hmore : symbol "..." (ss ++ p :: (tail ++ rest)) = [] := by
    rw [show ("..." : Text) = ['.', '.', '.'] by with_unfolding_all decide]
    exact symbol_eq_nil (h.named.isMark (by decide))
  refine hfirst.of_eq ?_
  refine (orElse_of_left_eq_nil hellipsis).trans ?_
  refine (bind_of_eq (optional_of_eq_nil hthis)).trans ((bind_of_eq hspecifiers).trans ?_)
  refine orElse_of_right_eq_nil (orElse_eq_nil ?_ ?_)
  · exact bind_eq_nil_of_forall fun x hx => bind_eq_nil (hdefault x hx)
  · exact (bind_of_eq (orElse_of_left_eq_nil hreference)).trans (bind_eq_nil hmore)

end HasParts

end Variable

end Bindery.Canonical
