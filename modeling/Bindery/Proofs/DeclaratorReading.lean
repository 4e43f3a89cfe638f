import Bindery.Header.Declaring
import Bindery.Proofs.BaseReading

/-!
# Reading declarators

Stars, a name and what may stand behind a name are read as a declarator in one way that goes further
than the others: these stop at the name or before what stands behind it.
-/

namespace Bindery.Header

open Reader Piece

variable {g : Phrases} {place : Place} {p q : Piece} {ps ss rest : List Piece} {w : Text}
  {d : Declarator} {n : Nat}

/-! ### Names -/

/-- Pieces that begin with no name that could be declared. -/
structure IsNameless (ps : List Piece) : Prop where
  /-- They begin with no word. -/
  word : ps.head?.bind Piece.word? = none
  /-- They begin with no tilde, as the name of a destructor does. -/
  tilde : ps.head?.any (·.isMark '~') = false
  /-- They begin with no colon, as a scope may. -/
  colon : ps.head?.any (·.isMark ':') = false
  /-- They begin with no bracket, which may hold several names. -/
  bracket : ps.head?.any (·.isGroup '[') = false

theorem IsNameless.isOneOf (h : IsNameless ps) (words : List Text) :
    ps.head?.any (·.isOneOf words) = false := by
  cases ps with
  | nil => rfl
  | cons p ps => exact isOneOf_of_word?_eq_none h.word words

theorem declaredName_eq_nil (h : IsNameless ps) : declaredName g place ps = [] := by
  have hname : ∀ reserved, name reserved ps = [] := fun _ => name_eq_nil h.word
  have hoperator : operatorName ps = [] := bind_eq_nil (word_eq_nil (h.isOneOf _))
  have hdestructor : destructorName ps = [] := bind_eq_nil (mark_eq_nil h.tilde)
  have hshared : sharedNames ps = [] := bind_eq_nil (groupOf_eq_nil h.bracket)
  cases place with
  | declaration =>
    refine orElse_eq_nil (bind_eq_nil ?_) (bind_eq_nil ?_)
    · exact qualifiedName_eq_nil (hname _) (h.isOneOf _) h.colon
    · exact orElse_eq_nil hoperator (orElse_eq_nil hdestructor hshared)
  | field => exact orElse_eq_nil (bind_eq_nil (hname _)) (bind_eq_nil hoperator)
  | definition => exact bind_eq_nil (hname _)

/-- A word without another meaning is read as a declared name. -/
theorem declaredName_cons (hg : g.IsAngled) (hp : p.word? = some w) (hw : w ∉ place.reserved)
    (hps : IsUnscoped ps) : declaredName g place (p :: ps) = [⟨.name (some w), 0, ps⟩] := by
  cases place with
  | declaration =>
    have hspecial : w ∉ (["decltype", "template"] : List Text) := fun hmem =>
      hw (by simp [Place.reserved, Keyword.declarators] at hmem ⊢; grind)
    have hoperator : w ∉ (["operator"] : List Text) := fun hmem =>
      hw (by simp [Place.reserved, Keyword.declarators] at hmem ⊢; grind)
    have hothers : (operatorName <|> destructorName <|> sharedNames) (p :: ps) = [] :=
      BeginsWith.eq_nil hp (by simpa using hoperator) ps
    refine (orElse_of_right_eq_nil (bind_eq_nil hothers)).trans ?_
    exact bind_of_eq (qualifiedName_cons hg hp hw hspecial hps)
  | field =>
    have hoperator : w ∉ (["operator"] : List Text) := fun hmem =>
      hw (by simp [Place.reserved, Keyword.fields] at hmem ⊢; grind)
    refine (orElse_of_right_eq_nil (bind_eq_nil (BeginsWith.eq_nil hp hoperator ps))).trans ?_
    refine (bind_of_eq (name_cons hp hw ps)).trans ?_
    refine (bind_of_eq (optional_templateArguments_eq hg hps)).trans ?_
    exact bind_of_eq (notAScope_eq hps.colon)
  | definition =>
    refine (bind_of_eq (name_cons hp hw ps)).trans ?_
    exact bind_of_eq (notAScope_eq hps.colon)

/-! ### Stars -/

/-- Pieces that do not qualify the star of a pointer before them. -/
structure EndsStar (ps : List Piece) : Prop where
  /-- They begin with no modifier. -/
  unmodified : IsUnmodified ps
  /-- They begin with no word that qualifies a pointer. -/
  pointer : ps.head?.any (·.isOneOf Keyword.pointers) = false

theorem pointerMark_cons (hp : p.isMark '*' = true) (hps : EndsStar ps) :
    pointerMark (p :: ps) = [⟨(), 0, ps⟩] := by
  have hdrop : dropPointerQualifier? ps = none := by
    cases ps with
    | nil => rfl
    | cons q ps =>
      have hq : q.isOneOf Keyword.pointers = false := hps.pointer
      rw [dropPointerQualifier?, hq]
      rfl
  have hskip : skip (dropAll dropPointerQualifier?) ps = [⟨(), 0, ps⟩] := by
    rw [skip, dropAll_eq hdrop]
  rw [pointerMark, bind_of_eq (mark_cons hp ps), bind_of_eq hskip,
    bind_of_eq hps.unmodified.qualifiers_eq]
  rfl

theorem isNameless_of_isMark {c : Char} (hp : p.isMark c = true) (htilde : c ≠ '~')
    (hcolon : c ≠ ':') (ps : List Piece) : IsNameless (p :: ps) :=
  ⟨word?_of_isMark hp, isMark_of_isMark hp htilde, isMark_of_isMark hp hcolon,
    isGroup_of_isMark hp _⟩

theorem referenceMark_eq_nil (h : ps.head?.any (·.isMark '&') = false) :
    referenceMark ps = [] := by
  rw [referenceMark, show ("&&" : Text) = ['&', '&'] by with_unfolding_all decide]
  exact orElse_eq_nil (symbol_eq_nil h) (bind_eq_nil (mark_eq_nil h))

/-- So many pointers to what a declarator declares. -/
def pointers : Nat → Declarator → Declarator
  | 0, d => d
  | n + 1, d => .pointer (pointers n d)

/-- Pointers are seen outside all other parts. -/
theorem shape_pointers (n : Nat) (d : Declarator) :
    (pointers n d).shape = { d.shape with pointers := d.shape.pointers + n } := by
  induction n with
  | zero => rfl
  | succ n ih => rw [pointers, Declarator.shape, ih, Nat.add_assoc]

/-- A way to read with so many stars before it. -/
def pointed (n : Nat) (x : Parse Declarator) : Parse Declarator :=
  ⟨pointers n x.value, n + x.weight, x.rest⟩

/-- A star makes a pointer of what follows. -/
theorem declaratorUpTo_star (hp : p.isMark '*' = true) (hps : EndsStar ps) (n : Nat) :
    declaratorUpTo g place (n + 1) (p :: ps) = (declaratorUpTo g place n ps).map (pointed 1) := by
  have hbased : (optional do word ["__based"]; group '(' (·.arguments)) (p :: ps) =
      [⟨none, 0, p :: ps⟩] :=
    optional_of_eq_nil (bind_eq_nil (word_eq_nil (isOneOf_of_isMark hp _)))
  have hreference : referenceMark (p :: ps) = [] :=
    referenceMark_eq_nil (isMark_of_isMark hp (by decide))
  have hname : declaredName g place (p :: ps) = [] :=
    declaredName_eq_nil (isNameless_of_isMark hp (by decide) (by decide) ps)
  have hparens : (do let d ← group '(' place.reading; return Declarator.parens d) (p :: ps) = [] :=
    bind_eq_nil (group_eq_nil (isGroup_of_isMark hp _))
  rw [declaratorUpTo, orElse_of_right_eq_nil
    (orElse_eq_nil (bind_eq_nil hreference) (bind_eq_nil (orElse_eq_nil hname hparens))),
    bind_of_eq hbased, bind_of_eq (pointerMark_cons hp hps),
    weigh_bind, bind_apply, List.map_flatMap]
  simp only [pure_apply, List.map_cons, List.map_nil, behind_mk, Int.add_zero]
  exact (List.map_eq_flatMap).symm

theorem endsStar_of_isMark {c : Char} (hp : p.isMark c = true) (ps : List Piece) :
    EndsStar (p :: ps) :=
  ⟨⟨isOneOf_of_isMark hp _, isGroup_of_isMark hp _⟩, isOneOf_of_isMark hp _⟩

/-- **Stars** make pointers of what follows them. -/
theorem declaratorUpTo_stars (hss : ∀ s ∈ ss, s.isMark '*' = true)
    (hps : ss ≠ [] → EndsStar ps) (n : Nat) :
    declaratorUpTo g place (ss.length + n) (ss ++ ps) =
      (declaratorUpTo g place n ps).map (pointed ss.length) := by
  induction ss with
  | nil =>
    have hpointed : pointed 0 = id := funext fun x => by simp [pointed, pointers]
    simp [hpointed]
  | cons s ss ih =>
    obtain ⟨hs, hss⟩ := List.forall_mem_cons.mp hss
    have hend : EndsStar (ss ++ ps) := by
      cases ss with
      | nil => exact hps (List.cons_ne_nil _ _)
      | cons s' ss => exact endsStar_of_isMark (hss s' List.mem_cons_self) _
    have hcount : (s :: ss).length + n = (ss.length + n) + 1 := by simp; omega
    rw [hcount, List.cons_append, declaratorUpTo_star hs hend,
      ih hss fun _ => hps (List.cons_ne_nil _ _), List.map_map]
    refine List.map_congr_left fun x _ => ?_
    simp [pointed, pointers]
    omega

/-! ### What stands behind a name -/

/-- Pieces that end a declaration or a member of a list, if any are left. -/
def EndsPhrase (ps : List Piece) : Prop :=
  ∀ q ∈ ps.head?, q.isMark ',' = true ∨ q.isMark ';' = true

namespace EndsPhrase

theorem semicolon {q : Piece} (hq : q.isMark ';' = true) (ps : List Piece) :
    EndsPhrase (q :: ps) := by
  rintro _ ⟨⟩
  exact Or.inr hq

theorem any_eq_false {f : Piece → Bool} (h : EndsPhrase ps)
    (hf : ∀ q : Piece, q.isMark ',' = true ∨ q.isMark ';' = true → f q = false) :
    ps.head?.any f = false := by
  cases ps with
  | nil => rfl
  | cons q ps => exact hf q (h q rfl)

theorem isGroup (h : EndsPhrase ps) (c : Char) : ps.head?.any (·.isGroup c) = false :=
  h.any_eq_false fun _ hq => hq.elim (isGroup_of_isMark · c) (isGroup_of_isMark · c)

theorem isOneOf (h : EndsPhrase ps) (words : List Text) :
    ps.head?.any (·.isOneOf words) = false :=
  h.any_eq_false fun _ hq => hq.elim (isOneOf_of_isMark · words) (isOneOf_of_isMark · words)

theorem isMark (h : EndsPhrase ps) {c : Char} (hcomma : ',' ≠ c) (hsemicolon : ';' ≠ c) :
    ps.head?.any (·.isMark c) = false :=
  h.any_eq_false fun _ hq =>
    hq.elim (isMark_of_isMark · hcomma) (isMark_of_isMark · hsemicolon)

/-- No symbol follows but one that begins as a phrase ends. -/
theorem behindSymbol_eq_none {cs : Text} (h : EndsPhrase ps)
    (hcs : cs.head?.any (fun c => c != ',' && c != ';') = true) : behindSymbol cs ps = none := by
  cases cs with
  | nil => cases hcs
  | cons c cs =>
    have hc : (c != ',' && c != ';') = true := hcs
    rw [Bool.and_eq_true, bne_iff_ne, bne_iff_ne] at hc
    exact Reader.behindSymbol_eq_none (h.isMark hc.1.symm hc.2.symm)

theorem symbol_eq_nil {cs : Text} (h : EndsPhrase ps)
    (hcs : cs.head?.any (fun c => c != ',' && c != ';') = true) : symbol cs ps = [] := by
  rw [symbol, h.behindSymbol_eq_none hcs]
  rfl

theorem word? (h : EndsPhrase ps) : ps.head?.bind Piece.word? = none := by
  cases ps with
  | nil => rfl
  | cons q ps => exact (h q rfl).elim word?_of_isMark word?_of_isMark

theorem isUnmodified (h : EndsPhrase ps) : IsUnmodified ps := ⟨h.isOneOf _, h.isGroup _⟩

theorem isUnscoped (h : EndsPhrase ps) : IsUnscoped ps :=
  ⟨h.isMark (by decide) (by decide), h.isMark (by decide) (by decide)⟩

theorem endsType (h : EndsPhrase ps) : EndsType ps :=
  ⟨h.isUnscoped, h.isUnmodified, h.isOneOf _⟩

end EndsPhrase

/-- Nothing stands behind the parameters of a function. -/
theorem functionTail_eq (h : EndsPhrase ps) : functionTail g ps = [⟨(), 0, ps⟩] := by
  have hreference : referenceMark ps = [] := referenceMark_eq_nil (h.isMark (by decide) (by decide))
  have hexceptions : exceptions g ps = [] :=
    orElse_eq_nil (bind_eq_nil (word_eq_nil (h.isOneOf _)))
      (bind_eq_nil (word_eq_nil (h.isOneOf _)))
  have hassembly : optional assembly ps = [⟨none, 0, ps⟩] :=
    optional_of_eq_nil (bind_eq_nil (word_eq_nil (h.isOneOf _)))
  have hdrop : (dropAttribute? ps <|> dropBracketAttributes? ps) = none := by
    rw [h.isUnmodified.dropAttribute?, h.isUnmodified.dropBracketAttributes?]
    rfl
  have hclosing : closingAttributes ps = [] := by
    exact (bind_of_eq hassembly).trans (bind_eq_nil (check_eq_nil (by simp [hdrop])))
  have harrow : symbol "->" ps = [] := h.symbol_eq_nil (by with_unfolding_all decide)
  have hskip : skip (fun ps => ps.dropWhile (·.isOneOf Keyword.closures)) ps = [⟨(), 0, ps⟩] := by
    have hclosures := h.isOneOf Keyword.closures
    cases ps with
    | nil => rfl
    | cons q ps =>
      have hq : q.isOneOf Keyword.closures = false := hclosures
      rw [skip, List.dropWhile_cons_of_neg (by simp [hq])]
  rw [functionTail, bind_of_eq (attributes_eq h.isUnmodified.attributes),
    bind_of_eq h.isUnmodified.qualifiers_eq]
  refine (bind_of_eq (orElse_of_left_eq_nil hreference)).trans ?_
  refine (bind_of_eq (orElse_of_left_eq_nil hexceptions)).trans ?_
  refine (bind_of_eq (orElse_of_right_eq_nil hclosing)).trans ?_
  refine (bind_of_eq (orElse_of_left_eq_nil (bind_eq_nil harrow))).trans ?_
  exact (orElse_of_left_eq_nil (bind_eq_nil (word_eq_nil (h.isOneOf _)))).trans hskip

theorem place_functionTail_eq (h : EndsPhrase ps) :
    place.functionTail g ps = [⟨(), 0, ps⟩] := by
  cases place with
  | definition => rfl
  | _ => exact functionTail_eq h

/-- A declarator ends where neither parameters nor an array size follow. -/
theorem declaratorSuffixes_eq (hparams : group '(' (·.params) ps = [])
    (hbracket : ps.head?.any (·.isGroup '[') = false) (n : Nat) (d : Declarator) :
    declaratorSuffixes g place n d ps = [⟨d, 0, ps⟩] := by
  cases n with
  | zero => rfl
  | succ n =>
    have hsuffix : declaratorSuffix (place.functionTail g) place.functionWeight d ps = [] :=
      orElse_eq_nil (bind_eq_nil hparams) (bind_eq_nil (group_eq_nil hbracket))
    have hattributed : attributed ps = [] :=
      bind_eq_nil (check_eq_nil (by simp [dropBracketAttributes?_eq_none hbracket]))
    exact orElse_of_left_eq_nil (bind_eq_nil (orElse_eq_nil hsuffix hattributed))

/-- Parameters behind a declarator make a function of it, or are left. -/
theorem declaratorSuffixes_function {params : Weighted (List Param)} (hp : p.isGroup '(' = true)
    (hparams : p.readings.params = some params) (hps : EndsPhrase ps) (n : Nat)
    (d : Declarator) :
    declaratorSuffixes g place (n + 1) d (p :: ps) =
      [⟨.function d params.value, params.weight + place.functionWeight, ps⟩, ⟨d, 0, p :: ps⟩] := by
  have hbracket : (p :: ps).head?.any (·.isGroup '[') = false := isGroup_of_isGroup hp (by decide)
  have hfunction : declaratorSuffix (place.functionTail g) place.functionWeight d (p :: ps) =
      [⟨.function d params.value, params.weight + place.functionWeight, ps⟩] := by
    refine (orElse_of_right_eq_nil (bind_eq_nil (group_eq_nil hbracket))).trans ?_
    refine (bind_of_eq_weighted (group_cons hp hparams ps)).trans ?_
    rw [weigh_bind, bind_of_eq (place_functionTail_eq hps), pure_apply]
    simp
  have hattributed : attributed (p :: ps) = [] :=
    bind_eq_nil (check_eq_nil (by simp [dropBracketAttributes?_eq_none hbracket]))
  have hends : declaratorSuffixes g place n (.function d params.value) ps =
      [⟨.function d params.value, 0, ps⟩] :=
    declaratorSuffixes_eq (group_eq_nil (hps.isGroup _)) (hps.isGroup _) n _
  rw [declaratorSuffixes, orElse_apply, bind_of_eq_weighted
    ((orElse_of_right_eq_nil hattributed).trans hfunction), hends, pure_apply]
  simp

/-- A pair of brackets around one token. -/
structure IsBracketed (p : Piece) : Prop where
  /-- It is a pair of brackets. -/
  group : p.isGroup '[' = true
  /-- A token stands between them. -/
  inside : ∃ n t, p.inside? '[' = some [.token n t]

/-- An array size behind a declarator makes an array of it, or is left. -/
theorem declaratorSuffixes_array {size : Weighted Text} (hp : IsBracketed p)
    (hsize : p.readings.size = some size) (hps : EndsPhrase ps) (n : Nat) (d : Declarator) :
    declaratorSuffixes g place (n + 1) d (p :: ps) =
      [⟨.array d size.value, size.weight, ps⟩, ⟨d, 0, p :: ps⟩] := by
  have hparens : (p :: ps).head?.any (·.isGroup '(') = false :=
    isGroup_of_isGroup hp.group (by decide)
  have harray : declaratorSuffix (place.functionTail g) place.functionWeight d (p :: ps) =
      [⟨.array d size.value, size.weight, ps⟩] := by
    refine (orElse_of_left_eq_nil (bind_eq_nil (group_eq_nil hparens))).trans ?_
    refine (bind_of_eq_weighted (group_cons hp.group hsize ps)).trans ?_
    simp [pure_apply]
  have hdrop : dropBracketAttributes? (p :: ps) = none := by
    obtain ⟨n, o, inside, source, readings, rfl, ho⟩ := exists_of_isGroup hp.group
    obtain ⟨m, t, hinside⟩ := hp.inside
    rw [inside?, if_pos ho] at hinside
    obtain rfl := Option.some.inj hinside
    rfl
  have hattributed : attributed (p :: ps) = [] := bind_eq_nil (check_eq_nil (by simp [hdrop]))
  have hends : declaratorSuffixes g place n (.array d size.value) ps =
      [⟨.array d size.value, 0, ps⟩] :=
    declaratorSuffixes_eq (group_eq_nil (hps.isGroup _)) (hps.isGroup _) n _
  rw [declaratorSuffixes, orElse_apply, bind_of_eq_weighted
    ((orElse_of_right_eq_nil hattributed).trans harray), hends, pure_apply]
  simp

/-! ### Declarators -/

section TakesFront

theorem takeModifier?_suffix {taken : Bool × List Piece} (h : takeModifier? ps = some taken) :
    taken.2 <:+ ps := by
  rcases orElse_eq_some h with h | h
  · exact takeQualifier?_suffix h
  rcases orElse_eq_some h with h | h
  · split at h
    · split at h
      · cases h
        exact List.suffix_cons _ _
      · cases h
    · cases h
  · obtain ⟨rest, hrest, rfl⟩ := Option.map_eq_some_iff.mp h
    rcases orElse_eq_some hrest with h | h
    · exact MayDropFront.suffix h
    rcases orElse_eq_some h with h | h
    · exact MayDropFront.suffix h
    · exact MayDropFront.suffix h

instance : TakesFront modifiers where
  suffix h := by
    rw [List.mem_singleton.mp h]
    exact takeRepeatedly_suffix takeModifier?_suffix _ _

variable (g : Phrases) [g.TakeFront] (place : Place)

instance : TakesFront (place.functionTail g) := by
  cases place <;> unfold Place.functionTail <;> infer_instance

instance : TakesFront sharedNames := by unfold sharedNames; infer_instance

instance : TakesFront (declaredName g place) := by
  unfold declaredName
  cases place <;> dsimp only <;> infer_instance

theorem takesFront_declaratorSuffixes (n : Nat) (d : Declarator) :
    TakesFront (declaratorSuffixes g place n d) := by
  induction n generalizing d with
  | zero => exact inferInstanceAs (TakesFront (pure d))
  | succ n ih =>
    unfold declaratorSuffixes attributed
    infer_instance

theorem takesFront_declaratorUpTo (n : Nat) : TakesFront (declaratorUpTo g place n) := by
  have hsuffixes := takesFront_declaratorSuffixes g place
  induction n with
  | zero => exact inferInstanceAs (TakesFront fail)
  | succ n ih =>
    unfold declaratorUpTo
    infer_instance

instance : TakesFront (declarator g place) where
  suffix h := (takesFront_declaratorUpTo g place _).suffix (mem_settle _ h)

instance (reserved : List Text) : TakesFront (specifiers g reserved) := by
  unfold specifiers
  infer_instance


set_option synthInstance.maxSize 256 in
instance (angled : Bool) : TakesFront (parameter g angled) := by unfold parameter; infer_instance

end TakesFront

/-- A name is read with what stands behind it, at no weight. -/
theorem declaratorUpTo_name (hg : g.IsAngled) (hp : p.word? = some w) (hw : w ∉ place.reserved)
    (hps : IsUnscoped ps) (n : Nat) :
    declaratorUpTo g place (n + 1) (p :: ps) =
      (declaratorSuffixes g place n (.name (some w)) ps).map (behind 0) := by
  have hbased : w ∉ (["__based"] : List Text) := fun hmem => hw (by
    cases place <;>
      simp [Place.reserved, Keyword.declarators, Keyword.fields, Keyword.definitions] at hmem ⊢ <;>
      grind)
  have hoptional : (optional do word ["__based"]; group '(' (·.arguments)) (p :: ps) =
      [⟨none, 0, p :: ps⟩] :=
    optional_of_eq_nil (bind_eq_nil (word_eq_nil_of_word? hp hbased))
  have hstar : pointerMark (p :: ps) = [] := BeginsWith.eq_nil hp (by simp) ps
  have hreference : referenceMark (p :: ps) = [] := BeginsWith.eq_nil hp (by simp) ps
  have hparens : (do let d ← group '(' place.reading; return Declarator.parens d) (p :: ps) = [] :=
    bind_eq_nil (group_eq_nil (isGroup_of_word? hp _))
  rw [declaratorUpTo, orElse_of_left_eq_nil ((bind_of_eq hoptional).trans (bind_eq_nil hstar)),
    orElse_of_left_eq_nil (bind_eq_nil hreference),
    bind_of_eq_weighted ((orElse_of_right_eq_nil hparens).trans (declaredName_cons hg hp hw hps))]

/-- What begins no part of a declarator is none. -/
theorem declaratorUpTo_eq_nil_of_head (hbased : ps.head?.any (·.isOneOf ["__based"]) = false)
    (hstar : ps.head?.any (·.isMark '*') = false) (hreference : ps.head?.any (·.isMark '&') = false)
    (hparens : ps.head?.any (·.isGroup '(') = false) (hname : declaredName g place ps = [])
    (n : Nat) :
    declaratorUpTo g place n ps = [] := by
  cases n with
  | zero => rfl
  | succ n =>
    have hoptional : (optional do word ["__based"]; group '(' (·.arguments)) ps = [⟨none, 0, ps⟩] :=
      optional_of_eq_nil (bind_eq_nil (word_eq_nil hbased))
    have hpointer : pointerMark ps = [] := bind_eq_nil (mark_eq_nil hstar)
    exact orElse_eq_nil ((bind_of_eq hoptional).trans (bind_eq_nil hpointer)) (orElse_eq_nil
      (bind_eq_nil (referenceMark_eq_nil hreference)) (bind_eq_nil
        (orElse_eq_nil hname (bind_eq_nil (group_eq_nil hparens)))))

/-- Nothing is declared where a phrase ends. -/
theorem EndsPhrase.declarator_eq_nil (h : EndsPhrase ps) : declarator g place ps = [] := by
  have hname : declaredName g place ps = [] := declaredName_eq_nil
    ⟨h.word?, h.isMark (by decide) (by decide), h.isMark (by decide) (by decide), h.isGroup _⟩
  exact settle_eq_nil (declaratorUpTo_eq_nil_of_head (h.isOneOf _)
    (h.isMark (by decide) (by decide)) (h.isMark (by decide) (by decide)) (h.isGroup _) hname _)

/-- A word with another meaning is no declared name. -/
theorem declaratorUpTo_eq_nil (hp : p.word? = some w) (hw : w ∈ place.reserved)
    (hspecial : w ∉ (["decltype", "template", "operator", "__based"] : List Text)) (n : Nat) :
    declaratorUpTo g place n (p :: ps) = [] := by
  have hone : ∀ words : List Text,
      words ⊆ (["decltype", "template", "operator", "__based"] : List Text) → w ∉ words :=
    fun words hwords hmem => hspecial (hwords hmem)
  have hname : name place.reserved (p :: ps) = [] := name_cons_of_mem hp hw ps
  have hoperator : operatorName (p :: ps) = [] := BeginsWith.eq_nil hp (hone _ (by simp)) ps
  have hdeclared : declaredName g place (p :: ps) = [] := by
    cases place with
    | declaration =>
      have hwords : (p :: ps).head?.any (·.isOneOf ["decltype", "template"]) = false := by
        simpa [isOneOf_of_word? hp] using hone ["decltype", "template"] (by simp)
      refine orElse_eq_nil (bind_eq_nil (qualifiedName_eq_nil hname hwords (isMark_of_word? hp _)))
        (bind_eq_nil ?_)
      exact BeginsWith.eq_nil hp (hone _ (by simp)) ps
    | field => exact orElse_eq_nil (bind_eq_nil hname) (bind_eq_nil hoperator)
    | definition => exact bind_eq_nil hname
  have hbased : (p :: ps).head?.any (·.isOneOf ["__based"]) = false := by
    simpa [isOneOf_of_word? hp] using hone ["__based"] (by simp)
  exact declaratorUpTo_eq_nil_of_head hbased (isMark_of_word? hp _) (isMark_of_word? hp _)
    (isGroup_of_word? hp _) hdeclared n

/-- What stands behind a declared name, up to the end of the phrase: what it makes of the name, how
well it fits, and what is left. -/
inductive IsSuffixed (place : Place) :
    List Piece → (Declarator → Declarator) → Int → List Piece → Prop
  /-- Nothing. -/
  | ends {ps : List Piece} : EndsPhrase ps → IsSuffixed place ps id 0 ps
  /-- Parameters. -/
  | function {p : Piece} {ps : List Piece} {params : Weighted (List Param)} :
      p.isGroup '(' = true → p.readings.params = some params → EndsPhrase ps →
      IsSuffixed place (p :: ps) (.function · params.value) (params.weight + place.functionWeight)
        ps
  /-- The size of an array. -/
  | array {p : Piece} {ps : List Piece} {size : Weighted Text} :
      IsBracketed p → p.readings.size = some size → EndsPhrase ps →
      IsSuffixed place (p :: ps) (.array · size.value) size.weight ps

namespace IsSuffixed

variable {tail : List Piece} {make : Declarator → Declarator} {v : Int}

theorem isUnscoped (h : IsSuffixed place tail make v rest) : IsUnscoped tail := by
  cases h with
  | ends hends => exact hends.isUnscoped
  | function hp => exact ⟨isMark_of_isGroup hp _, isMark_of_isGroup hp _⟩
  | array hp => exact ⟨isMark_of_isGroup hp.group _, isMark_of_isGroup hp.group _⟩

/-- It is read whole, or not at all. -/
theorem exists_declaratorSuffixes_eq (h : IsSuffixed place tail make v rest) (n : Nat)
    (d : Declarator) :
    ∃ others, declaratorSuffixes g place (n + 1) d tail = ⟨make d, v, rest⟩ :: others ∧
      ∀ y ∈ others, y = ⟨d, 0, tail⟩ ∧ rest.length < tail.length := by
  cases h with
  | ends hends =>
    exact ⟨[], declaratorSuffixes_eq (group_eq_nil (hends.isGroup _)) (hends.isGroup _) _ d,
      by simp⟩
  | function hp hparams hends =>
    exact ⟨_, declaratorSuffixes_function hp hparams hends n d, by simp⟩
  | array hp hsize hends => exact ⟨_, declaratorSuffixes_array hp hsize hends n d, by simp⟩

end IsSuffixed

/-- Parentheses are read with what stands behind them. -/
theorem declaratorUpTo_parens {inner : Weighted Declarator} (hp : p.isGroup '(' = true)
    (hinner : place.reading p.readings = some inner) (n : Nat) :
    declaratorUpTo g place (n + 1) (p :: ps) =
      (declaratorSuffixes g place n (.parens inner.value) ps).map (behind inner.weight) := by
  have hoptional : (optional do word ["__based"]; group '(' (·.arguments)) (p :: ps) =
      [⟨none, 0, p :: ps⟩] :=
    optional_of_eq_nil (bind_eq_nil (word_eq_nil (isOneOf_of_isGroup hp _)))
  have hstar : pointerMark (p :: ps) = [] := bind_eq_nil (mark_eq_nil (isMark_of_isGroup hp _))
  have hreference : referenceMark (p :: ps) = [] := referenceMark_eq_nil (isMark_of_isGroup hp _)
  have hname : declaredName g place (p :: ps) = [] :=
    declaredName_eq_nil ⟨word?_of_isGroup hp, isMark_of_isGroup hp _, isMark_of_isGroup hp _,
      isGroup_of_isGroup hp (by decide)⟩
  have hparens : (do let d ← group '(' place.reading; return Declarator.parens d) (p :: ps) =
      [⟨.parens inner.value, inner.weight, ps⟩] := by
    rw [bind_of_eq_weighted (group_cons hp hinner ps), pure_apply]
    simp
  rw [declaratorUpTo, orElse_of_left_eq_nil ((bind_of_eq hoptional).trans (bind_eq_nil hstar)),
    orElse_of_left_eq_nil (bind_eq_nil hreference),
    bind_of_eq_weighted ((orElse_of_left_eq_nil hname).trans hparens)]

/-- **Declarators.** Stars and what follows them, with what stands behind that, are read as a whole,
or without what stands behind. -/
theorem isFurthest_declarator [g.TakeFront] {d : Declarator} {u : Int}
    (hss : ∀ s ∈ ss, s.isMark '*' = true) (hstar : ss ≠ [] → EndsStar (p :: ps))
    (hhead : ∀ n, declaratorUpTo g place (n + 1) (p :: ps) =
      (declaratorSuffixes g place n d ps).map (behind u))
    {make : Declarator → Declarator} {v : Int} (hsuffix : IsSuffixed place ps make v rest)
    (hordered : AreOrdered (ss ++ p :: ps)) :
    IsFurthest (declarator g place) (ss ++ p :: ps) (pointed ss.length ⟨make d, u + v, rest⟩) ∧
      ∀ y ∈ declarator g place (ss ++ p :: ps),
        y = pointed ss.length ⟨make d, u + v, rest⟩ ∨
          y = pointed ss.length ⟨d, u, ps⟩ ∧ rest.length < ps.length := by
  obtain ⟨others, hread, hothers⟩ := hsuffix.exists_declaratorSuffixes_eq (g := g) ps.length d
  have hcount : (ss ++ p :: ps).length + 1 = ss.length + (ps.length + 1 + 1) := by
    simp
    omega
  have hlist : declaratorUpTo g place ((ss ++ p :: ps).length + 1) (ss ++ p :: ps) =
      ((⟨make d, v, rest⟩ :: others).map (behind u)).map (pointed ss.length) := by
    rw [hcount, declaratorUpTo_stars hss hstar, hhead, hread]
  have hmem : ∀ y ∈ declaratorUpTo g place ((ss ++ p :: ps).length + 1) (ss ++ p :: ps),
      y = pointed ss.length ⟨make d, u + v, rest⟩ ∨
        y = pointed ss.length ⟨d, u, ps⟩ ∧ rest.length < ps.length := by
    intro y hy
    rw [hlist, List.map_map] at hy
    obtain ⟨x, hx, rfl⟩ := List.mem_map.mp hy
    rcases List.mem_cons.mp hx with rfl | hx
    · exact Or.inl rfl
    · obtain ⟨rfl, hlength⟩ := hothers x hx
      exact Or.inr ⟨by simp [behind], hlength⟩
  have hleads : Leads (fun ps => declaratorUpTo g place (ps.length + 1) ps) (ss ++ p :: ps)
      (pointed ss.length ⟨make d, u + v, rest⟩) := by
    refine ⟨hlist ▸ List.mem_cons_self, fun y hy => (hmem y hy).imp_right ?_⟩
    rintro ⟨rfl, hlength⟩
    exact Or.inl hlength
  have hfront : TakesFront (fun ps => declaratorUpTo g place (ps.length + 1) ps) :=
    ⟨fun h => (takesFront_declaratorUpTo g place _).suffix h⟩
  exact ⟨hleads.settle hordered, fun y hy => hmem y (mem_settle _ hy)⟩

/-! ### Declarators without a name -/

theorem abstractUpTo_name (hp : p.word? = some w) (n : Nat) : abstractUpTo g n (p :: ps) = [] := by
  cases n with
  | zero => rfl
  | succ n =>
    have hgroup : ∀ c, (p :: ps).head?.any (·.isGroup c) = false := isGroup_of_word? hp
    have hsuffix : declaratorSuffix (functionTail g) 0 .nameless (p :: ps) = [] :=
      orElse_eq_nil (bind_eq_nil (group_eq_nil (hgroup _)))
        (bind_eq_nil (group_eq_nil (hgroup _)))
    exact orElse_eq_nil (bind_eq_nil (BeginsWith.eq_nil hp (by simp) ps))
      (orElse_eq_nil (bind_eq_nil (BeginsWith.eq_nil hp (by simp) ps))
        (orElse_eq_nil (bind_eq_nil (group_eq_nil (hgroup _)))
          (bind_eq_nil hsuffix)))

theorem EndsPhrase.abstractDeclarator_eq_nil (h : EndsPhrase ps) :
    abstractDeclarator g ps = [] := by
  have hgroup : ∀ c, ps.head?.any (·.isGroup c) = false := h.isGroup
  have hstar : pointerMark ps = [] := bind_eq_nil (mark_eq_nil (h.isMark (by decide) (by decide)))
  have hreference : referenceMark ps = [] := referenceMark_eq_nil (h.isMark (by decide) (by decide))
  have hsuffix : declaratorSuffix (functionTail g) 0 .nameless ps = [] :=
    orElse_eq_nil (bind_eq_nil (group_eq_nil (hgroup _))) (bind_eq_nil (group_eq_nil (hgroup _)))
  exact orElse_eq_nil (bind_eq_nil hstar) (orElse_eq_nil (bind_eq_nil hreference)
    (orElse_eq_nil (bind_eq_nil (group_eq_nil (hgroup _))) (bind_eq_nil hsuffix)))

/-- A declarator without a name takes no more than the stars before a name. -/
theorem exists_rest_eq_of_mem_abstractUpTo (hss : ∀ s ∈ ss, s.isMark '*' = true)
    (hp : p.word? = some w) (hstar : ss ≠ [] → EndsStar (p :: ps)) {n : Nat}
    {x : Parse Declarator} (hx : x ∈ abstractUpTo g n (ss ++ p :: ps)) :
    ∃ left, left <:+ ss ∧ x.rest = left ++ p :: ps := by
  induction ss generalizing n x with
  | nil =>
    rw [List.nil_append, abstractUpTo_name hp] at hx
    exact absurd hx List.not_mem_nil
  | cons s ss ih =>
    obtain ⟨hs, hss⟩ := List.forall_mem_cons.mp hss
    cases n with
    | zero => exact absurd hx List.not_mem_nil
    | succ n =>
      have hends := hstar (List.cons_ne_nil _ _)
      have hend : EndsStar (ss ++ p :: ps) := by
        cases ss with
        | nil => exact hends
        | cons s' ss => exact endsStar_of_isMark (hss s' List.mem_cons_self) _
      have hgroup : ∀ c, (s :: (ss ++ p :: ps)).head?.any (·.isGroup c) = false :=
        isGroup_of_isMark hs
      have hreference : referenceMark (s :: (ss ++ p :: ps)) = [] :=
        referenceMark_eq_nil (isMark_of_isMark hs (by decide))
      have hothers : ((do
            referenceMark
            let _ ← optional (abstractUpTo g n)
            return Declarator.nameless)
          <|> (do
            let d ← group '(' (·.abstract)
            abstractSuffixes g n (.parens d))
          <|> (declaratorSuffix (functionTail g) 0 .nameless >>= abstractSuffixes g n))
          (s :: (ss ++ p :: ps)) = [] :=
        orElse_eq_nil (bind_eq_nil hreference) (orElse_eq_nil
          (bind_eq_nil (group_eq_nil (hgroup _))) (bind_eq_nil (orElse_eq_nil
            (bind_eq_nil (group_eq_nil (hgroup _))) (bind_eq_nil (group_eq_nil (hgroup _))))))
      rw [List.cons_append, abstractUpTo, orElse_of_right_eq_nil hothers,
        bind_of_eq (pointerMark_cons hs hend)] at hx
      obtain ⟨y, hy, z, hz, rfl⟩ := mem_bind.mp hx
      obtain rfl := List.mem_singleton.mp hy
      obtain ⟨u, hu, v, hv, rfl⟩ := mem_bind.mp hz
      obtain rfl := mem_pure.mp hv
      rcases mem_orElse.mp hu with hu | hu
      · obtain ⟨left, hleft, hrest⟩ := ih hss (fun _ => hends) hu
        exact ⟨left, hleft.trans (List.suffix_cons _ _), hrest⟩
      · obtain rfl := mem_pure.mp hu
        exact ⟨ss, List.suffix_cons _ _, rfl⟩

/-! ### Declarations -/

/-- Where no type begins, no declaration does. -/
theorem specifiers_eq_nil {reserved : List Text} (hunmodified : IsUnmodified ps)
    (hname : name reserved ps = [])
    (hwords : ps.head?.any (·.isOneOf (Keyword.tags ++ plainLeads)) = false)
    (hcolon : ps.head?.any (·.isMark ':') = false) : specifiers g reserved ps = [] := by
  rw [specifiers, bind_of_eq hunmodified.modifiers_eq]
  exact bind_eq_nil (baseType_eq_nil hname hwords hcolon)

/-- Where no body stands behind the declarator, no function is defined. -/
theorem functionDefinition_eq_nil {reserved : List Text} {s : Specifiers} {v : Int}
    (hconventions : ps.head?.any (·.isOneOf Keyword.conventions) = false)
    (hspecifiers : ReadsOnly (specifiers g reserved) ps ⟨s, v, rest⟩)
    (hbehind : rest.head?.any (·.isOneOf Keyword.conventions) = false)
    (hbody : ∀ y ∈ declarator g place rest, y.rest.head?.any (·.isGroup '\x7b') = false ∧
      y.rest.head?.any (·.isOneOf ["try"]) = false) :
    functionDefinition g reserved place ps = [] := by
  refine (bind_of_eq (optional_of_eq_nil (word_eq_nil hconventions))).trans ?_
  refine bind_eq_nil_of_forall fun x hx => ?_
  rw [hspecifiers.others x hx]
  refine (bind_of_eq (optional_of_eq_nil (word_eq_nil hbehind))).trans ?_
  refine bind_eq_nil_of_forall fun y hy => ?_
  obtain ⟨hbrace, htry⟩ := hbody y hy
  exact orElse_eq_nil (block_eq_nil hbrace) (bind_eq_nil (word_eq_nil htry))

end Bindery.Header
