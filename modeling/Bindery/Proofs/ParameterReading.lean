import Bindery.Proofs.ValueWeight
import Bindery.Proofs.VariableReading

/-!
# Reading parameters

The members of a list are read one by one. So the pieces between the parentheses of a function are
read as its parameters, and weigh at least as much as what else they could be read as. A name with a
star before it in parentheses is a declarator, and no parameter.
-/

namespace Bindery.Canonical

open Header Reader Piece

variable {g : Phrases} {v : Variable} {p q : Piece} {ps front tail rest : List Piece} {n : Nat}

/-! ## Lists -/

namespace AreListed

variable {α β : Type} {IsShown : α → List Piece → Prop} {a : α} {as : List α}

theorem ne_nil (h : AreListed IsShown a as ps) (hne : ∀ {b front}, IsShown b front → front ≠ []) :
    ps ≠ [] := by
  cases h with
  | single hps => exact hne hps
  | cons => simp

/-- The members of a list are read one by one, where each of them is read in one way only. -/
theorem exists_isRow (h : AreListed IsShown a as ps) {entry : Reader β} (value : α → β)
    (hne : ∀ {b front}, IsShown b front → front ≠ [])
    (hentry : ∀ b ∈ a :: as, ∀ {front tail rest}, IsShown b front → EndsMember tail rest →
      AreOrdered (front ++ tail) → ∃ w, 0 ≤ w ∧ ReadsOnly entry (front ++ tail) ⟨value b, w, rest⟩)
    (hordered : AreOrdered ps) :
    ∃ w, 0 ≤ w ∧ IsRow entry ps ((a :: as).map value) w := by
  induction h with
  | @single a ps hps =>
    obtain ⟨w, hw, hread⟩ := hentry a List.mem_cons_self hps .last (by simpa using hordered)
    rw [List.append_nil] at hread
    refine ⟨w + 0, by simpa using hw, .cons hread List.nil_suffix ?_ .nil⟩
    exact List.length_pos_iff.mpr (hne hps)
  | @cons a b as ps rest q hps hq hrest ih =>
    obtain ⟨w, hw, hread⟩ := hentry a List.mem_cons_self hps (.comma hq (hrest.ne_nil hne)) hordered
    obtain ⟨w', hw', hrow⟩ := ih (fun c hc => hentry c (List.mem_cons_of_mem _ hc))
      (hordered.sublist ((List.sublist_cons_self q rest).trans (List.sublist_append_right _ _)))
    refine ⟨w + w', Int.add_nonneg hw hw', .cons hread ?_ ?_ hrow⟩
    · exact (List.suffix_cons q rest).trans (List.suffix_append _ _)
    · simp
      omega

end AreListed

/-! ## One parameter -/

private theorem flat_words : ∀ w ∈ (["void", "int", "char", "float", "unsigned", "const"] :
    List Text), w ∉ operatorWords := by
  decide +kernel

theorem Identifier.isFlat {name : Identifier} (h : p.word? = some name.text) : IsFlat p :=
  .word h (name.not_mem name.avoids_nil covers_operatorWords)

theorem BaseType.IsShown.isFlat {b : BaseType} (h : b.IsShown ps) : ∀ p ∈ ps, IsFlat p := by
  have hbuiltin := flat_words
  cases h with
  | unsigned hp hq =>
    exact List.forall_mem_cons.mpr ⟨.word hp (hbuiltin _ (by simp)),
      List.forall_mem_singleton.mpr (.word hq (hbuiltin _ (by simp)))⟩
  | @word b p hne hp =>
    refine List.forall_mem_singleton.mpr ?_
    cases b with
    | unsignedInt => exact absurd rfl hne
    | named name => exact Identifier.isFlat hp
    | _ => exact .word hp (hbuiltin _ (by simp [BaseType.text]))

theorem Variable.IsShown.isFlat (h : v.IsShown ps) : ∀ p ∈ ps, IsFlat p := by
  obtain ⟨constant, base, stars, name, size⟩ := v
  obtain ⟨hcs, hbs, hss, hp, htail⟩ := h
  simp only [List.forall_mem_append, List.forall_mem_cons]
  refine ⟨?_, hbs.isFlat, fun s hs => .star (hss.isMark s hs), Identifier.isFlat hp, ?_⟩
  · cases hcs with
    | no => exact List.forall_mem_nil _
    | yes hc => exact List.forall_mem_singleton.mpr (.word hc (flat_words _ (by simp)))
  · cases htail with
    | none => exact List.forall_mem_nil _
    | some hbracket _ hsubscript =>
      exact List.forall_mem_singleton.mpr (.size hbracket.group hsubscript)

theorem AreListed.areFlat {vs : List Variable} (h : AreListed Variable.IsShown v vs ps) :
    AreFlat ps := by
  induction h with
  | single hps => exact fun p hp => Or.inl (hps.isFlat p hp)
  | cons hps hq _ ih =>
    exact List.forall_mem_append.mpr ⟨fun p hp => Or.inl (hps.isFlat p hp),
      List.forall_mem_cons.mpr ⟨Or.inr hq, ih⟩⟩

theorem AreParams.areFlat {vs : List Variable} (h : AreParams vs ps) : AreFlat ps := by
  cases h with
  | void hp =>
    exact List.forall_mem_singleton.mpr (Or.inl (.word hp (flat_words _ (by simp))))
  | listed hps => exact hps.areFlat

/-! ## Parameters -/

theorem endsPhrase_of_endsMember (h : EndsMember tail rest) : EndsPhrase tail := by
  cases h with
  | last => exact fun _ hq => nomatch hq
  | comma hq =>
    rintro _ ⟨⟩
    exact Or.inl hq

section Parameters

variable [g.TakeFront] (hg : g.IsAngled)

include hg in
/-- A parameter of a list is read with the comma behind it. -/
theorem Variable.IsShown.readsOnly_listEntry (h : v.IsShown front)
    (hv : v.isOrdinary operands = true) (htail : EndsMember tail rest)
    (hordered : AreOrdered (front ++ tail)) :
    ReadsOnly (listEntry false (settle (parameter g false))) (front ++ tail)
      ⟨some v.param, v.stars, rest⟩ := by
  have hflat := h.isFlat
  obtain ⟨cs, bs, ss, p, size, rfl, hparts⟩ := h.exists_hasParts hv
  have hfront : cs ++ (bs ++ (ss ++ p :: size)) ++ tail =
      cs ++ (bs ++ (ss ++ p :: (size ++ tail))) := by
    simp
  rw [hfront] at hordered
  have hread := (hparts.isFurthest_parameter hv hg (endsPhrase_of_endsMember htail) hordered).settle
    hordered
  rw [← hfront] at hread
  exact hread.listEntry (fun p hp => (hflat p hp).isMark (by decide)) htail

omit [g.TakeFront] in
include hg in
/-- The word that says that there are no parameters is read as a parameter without a name. -/
theorem parameter_void (hp : p.word? = some ("void" : Text)) (hordered : AreOrdered [p]) :
    parameter g false [p] = [⟨some ⟨BaseType.void.text, none⟩, 0, []⟩] := by
  have hends : EndsPhrase [] := fun _ hq => nomatch hq
  have hshown : BaseType.void.IsShown [p] := .word (by simp) hp
  have hspecifiers : specifiers g Keyword.parameters ([] ++ ([p] ++ [])) =
      [⟨⟨.plain BaseType.void.text, false⟩, 0, []⟩] :=
    specifiers_eq .no hshown rfl reserves_parameters hg hends.endsType hordered
  have hellipsis : (do symbol "..."; return none : Reader (Option Param)) [p] = [] :=
    bind_eq_nil (BeginsWith.eq_nil hp List.not_mem_nil _)
  have hthis : word ["this"] [p] = [] := word_eq_nil_of_word? hp (by decide +kernel)
  have hreference : referenceMark [] = [] := referenceMark_eq_nil rfl
  have hmore : symbol "..." [] = [] := hends.symbol_eq_nil (by with_unfolding_all decide)
  have hnone : (declarator g .declaration <|> abstractDeclarator g <|> pure .nameless) [] =
      [⟨.nameless, 0, []⟩] := by
    rw [orElse_of_left_eq_nil hends.declarator_eq_nil,
      orElse_of_left_eq_nil hends.abstractDeclarator_eq_nil, pure_apply]
  have hdefault : optional (declarator g .declaration <|> (do
      referenceMark
      let _ ← optional (abstractDeclarator g)
      return .nameless)) [] = [⟨none, 0, []⟩] :=
    optional_of_eq_nil (orElse_eq_nil hends.declarator_eq_nil (bind_eq_nil hreference))

  refine (orElse_of_left_eq_nil hellipsis).trans ?_
  refine (bind_of_eq (optional_of_eq_nil hthis)).trans ((bind_of_eq hspecifiers).trans ?_)
  refine (orElse_of_right_eq_nil (orElse_eq_nil ?_ ?_)).trans ?_
  · exact (bind_of_eq hdefault).trans (bind_eq_nil rfl)
  · exact (bind_of_eq (orElse_of_left_eq_nil hreference)).trans (bind_eq_nil hmore)
  · have hparam : paramOf ⟨.plain BaseType.void.text, false⟩ Declarator.nameless.shape =
        ⟨BaseType.void.text, none⟩ := by
      simp [paramOf, typeOf, Declarator.shape, Declarator.nameless, Header.BaseType.name]
    rw [bind_of_eq hnone, bind_of_eq (attributes_eq rfl), pure_apply, hparam]
    rfl

include hg in
/-- **Parameters** between parentheses are read as the parameters of a function. -/
theorem AreParams.exists_parameters?_eq {vs : List Variable} (h : AreParams vs ps)
    (hvs : vs.all (·.isOrdinary operands) = true) (hordered : AreOrdered ps) :
    ∃ w, 0 ≤ w ∧ parameters? g ps = some ⟨vs.map Variable.param, w⟩ := by
  cases h with
  | @void p hp =>
    have hread := (readsOnly_of_eq (settle_of_eq (parameter_void hg hp hordered))).isFurthest
    have hmember : ReadsOnly (listEntry false (settle (parameter g false))) ([p] ++ [])
        ⟨some ⟨BaseType.void.text, none⟩, 0, []⟩ :=
      IsFurthest.listEntry hread
        (List.forall_mem_singleton.mpr (isMark_of_word? hp _)) .last
    have hrow := IsRow.cons hmember List.nil_suffix (Nat.lt_succ_self 0) .nil
    have hlist : list false (settle (parameter g false)) [p] =
        some ⟨[some ⟨BaseType.void.text, none⟩], 0 + 0⟩ := by
      rw [list_of_ne_nil false (List.cons_ne_nil p [])]
      exact hrow.all hordered
    refine ⟨0 + 0, by simp, ?_⟩
    have hvoid : isVoidOnly [⟨BaseType.void.text, none⟩] = true := by
      simp [isVoidOnly, BaseType.text]
    rw [parameters?, hlist]
    simp [hvoid]
  | @listed v vs _ hps =>
    have hne : ∀ {v : Variable} {front}, v.IsShown front → front ≠ [] := by
      rintro v _ ⟨⟩
      simp
    obtain ⟨w, hw, hrow⟩ := hps.exists_isRow (fun v => some v.param) hne
      (fun b hb front tail rest hfront htail hrest =>
        ⟨b.stars, Int.natCast_nonneg _, hfront.readsOnly_listEntry hg
          (List.all_eq_true.mp hvs b hb) htail hrest⟩) hordered
    have hlist : list false (settle (parameter g false)) ps =
        some ⟨(v :: vs).map fun v => some v.param, w⟩ := by
      rw [list_of_ne_nil false (hps.ne_nil hne)]
      exact hrow.all hordered
    have hnamed : isVoidOnly ((v :: vs).map Variable.param) = false := by
      cases vs with
      | nil =>
        have hname : v.param.name.isNone = false := by
          rw [Variable.param]
          split <;> rfl
        simp [isVoidOnly, hname]
      | cons => rfl
    refine ⟨w, hw, ?_⟩
    have hparams : ((v :: vs).map fun v => some v.param).filterMap id =
        (v :: vs).map Variable.param := by
      simp [List.filterMap_map]
    rw [parameters?, hlist, Option.map_some, hparams]
    simp only [hnamed, Bool.false_eq_true, if_false]

end Parameters

/-! ## Groups -/

/-- The parentheses around parameters. -/
structure IsParameterGroup (vs : List Variable) (p : Piece) : Prop where
  /-- They are parentheses. -/
  group : p.isGroup '(' = true
  /-- They are read as parameters, and values weigh no more. -/
  params : ∃ w, p.readings.params = some ⟨vs.map Variable.param, w⟩ ∧
    ∀ v ∈ p.readings.values, v.weight ≤ w

theorem exists_isParameterGroup {vs : List Variable} (hvs : vs.all (·.isOrdinary operands) = true)
    (gap gap' : Text) (n : Nat) :
    ∃ ips, AreGrouped (n + 1) (paramTokens vs) ips ∧ IsParameterGroup vs
      (.enclosed n (.ofMark gap '(') (.ofMark gap' ')') (paramTokens vs) ips) := by
  obtain ⟨ips, hgrouped, hparams⟩ := exists_areParams vs (n + 1)
  obtain ⟨w, hw, hread⟩ := hparams.exists_parameters?_eq
    (isAngled_upTo ((paramTokens vs).length + 1 + 1)) hvs hgrouped.areOrdered
  refine ⟨ips, hgrouped, isGroup_enclosed _ _ _ _ _, w, ?_, fun v hv => ?_⟩
  · rw [params_enclosed]
    exact hread
  · rw [values_enclosed] at hv
    exact Int.le_trans (weight_nonpos_of_values hparams.areFlat hv) hw

/-- The parentheses around the name of a callback. -/
structure IsCallbackGroup (name : Identifier) (p : Piece) : Prop where
  /-- They are parentheses. -/
  group : p.isGroup '(' = true
  /-- They are read as a pointer. -/
  definition : ∃ w, p.readings.definition = some ⟨.pointer (.name (some name.text)), w⟩
  /-- They are no parameters. -/
  params : p.readings.params = none

/-- A declarator between parentheses that no comment and no word hides. -/
theorem enclosed?_eq {r : Reader Declarator} [TakesFront r] {d : Declarator} {u : Int}
    (hshown : ps.head?.any
      (fun p => p.first.followsComment || p.isOneOf Keyword.conventions) = false)
    (h : IsFurthest r ps ⟨d, u, []⟩) (hordered : AreOrdered ps) (w : Int) :
    enclosed? r w ps = some ⟨d, w + u⟩ := by
  have hconventions : word Keyword.conventions ps = [] := by
    refine word_eq_nil ?_
    cases ps with
    | nil => rfl
    | cons p ps => exact (Bool.or_eq_false_iff.mp hshown).2
  let given (d : Declarator) : Reader Declarator := do return if false then .nameless else d
  have hread : IsFurthest (r >>= given) ps ⟨d, u, []⟩ :=
    h.bind_of_forall (fun y _ => ⟨_, rfl⟩) rfl
  have hweight : ReadsOnly (weigh w) ps ⟨(), w, ps⟩ := readsOnly_of_eq rfl
  have hweighed : IsFurthest (weigh w >>= fun _ => r >>= given) ps ⟨d, w + u, []⟩ :=
    hweight.bind (f := fun _ => r >>= given) hread
  have hwhole := (hweighed.of_eq (bind_of_eq (optional_of_eq_nil hconventions)
    (f := fun _ => weigh w >>= fun _ => r >>= given))).leads.whole hordered
  rw [enclosed?, hshown]
  exact hwhole

/-- Where a list cannot begin there is none. -/
theorem list_eq_none {α : Type} {r : Reader α} (h : r ps = []) (hne : ps ≠ []) :
    list false r ps = none := by
  obtain ⟨p, ps, rfl⟩ := List.exists_cons_of_ne_nil hne
  have hentry : listEntry false r (p :: ps) = [] := bind_eq_nil h
  have hextend : extend (listEntry false r) ⟨[], 0, p :: ps⟩ = [] := by
    rw [extend_eq, hentry]
    rfl
  rw [list_of_ne_nil false hne, all, allWithSource, List.length_cons, allFrom, hextend]
  rfl

theorem exists_isCallbackGroup {name : Identifier} (hname : name.avoids (qualifiersBehind 1) = true)
    (gap gap' : Text) (n : Nat) :
    ∃ ips, AreGrouped (n + 1) [.ofMark [] '*', .ofWord [] name.text] ips ∧ IsCallbackGroup name
      (.enclosed n (.ofMark gap '(') (.ofMark gap' ')') [.ofMark [] '*', .ofWord [] name.text]
        ips) := by
  let s : Piece := .token (n + 1) (.ofMark [] '*')
  let p : Piece := .token (n + 1 + 1) (.ofWord [] name.text)
  have hgrouped : AreGrouped (n + 1) [.ofMark [] '*', .ofWord [] name.text] [s, p] :=
    .token (isLoose_ofMark (by decide)) (.token (isLoose_ofWord _) .nil)
  have hs : s.isMark '*' = true := Token.isMark_ofMark _
  have hnamed : IsNamed 1 name [s] p := ⟨⟨rfl, List.forall_mem_singleton.mpr hs⟩, rfl, hname⟩
  have hends : EndsPhrase [] := fun _ hq => nomatch hq
  obtain ⟨hread, -⟩ := hnamed.isFurthest_declarator (isAngled_upTo (2 + 1 + 1))
    (IsSuffixed.ends hends : IsSuffixed .definition [] id 0 []) hgrouped.areOrdered
  have hhidden : [s, p].head?.any
      (fun p => p.first.followsComment || p.isOneOf Keyword.conventions) = false := by
    have hconventions : s.isOneOf Keyword.conventions = false := isOneOf_of_isMark hs _
    change (false || s.isOneOf Keyword.conventions) = false
    exact hconventions
  have hdefinition := enclosed?_eq hhidden hread hgrouped.areOrdered (-10)
  have hpoint : [s, p].head?.any (·.isMark '.') = false := isMark_of_isMark hs (by decide)
  have hcolon : [s, p].head?.any (·.isMark ':') = false := isMark_of_isMark hs (by decide)
  have hnone : parameter (Phrases.upTo (2 + 1 + 1)) false [s, p] = [] := by
    have hellipsis : symbol "..." [s, p] = [] := by
      rw [show ("..." : Text) = ['.', '.', '.'] by with_unfolding_all decide]
      exact symbol_eq_nil hpoint
    have hthis : word ["this"] [s, p] = [] := word_eq_nil (isOneOf_of_isMark hs _)
    have hspecifiers : specifiers (Phrases.upTo (2 + 1 + 1)) Keyword.parameters [s, p] = [] :=
      specifiers_eq_nil ⟨isOneOf_of_isMark hs _, isGroup_of_isMark hs '['⟩
        (name_eq_nil (word?_of_isMark hs)) (isOneOf_of_isMark hs _) hcolon
    exact orElse_eq_nil (bind_eq_nil hellipsis) ((bind_of_eq (optional_of_eq_nil hthis)).trans
      (bind_eq_nil hspecifiers))
  have hlist := list_eq_none (settle_eq_nil hnone) (List.cons_ne_nil _ _)
  refine ⟨_, hgrouped, isGroup_enclosed _ _ _ _ _,
    ⟨_, (definition_enclosed _ _ _ _).trans hdefinition⟩, ?_⟩
  rw [params_enclosed, parameters?]
  exact congrArg _ hlist

end Bindery.Canonical
