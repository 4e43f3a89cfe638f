import Bindery.Proofs.ContentReading
import Bindery.Proofs.ParameterReading

/-!
# Reading functions

The declaration of a function is read as that function. It could be read as a product as well, or as
a variable with an initial value; but a product is no content by itself, and parameters weigh more
than initial values do.
-/

namespace Bindery.Canonical

open Header Reader Piece Expression

variable {g : Phrases} {b : BaseType} {name : Identifier} {params : List Variable} {p q r : Piece}
  {bs ss ps : List Piece} {n : Nat}

/-! ## A type is no value -/

private theorem value_words : (∀ w ∈ (["void", "int", "char", "float"] : List Text),
    w ∈ Keyword.primitives) ∧ ("unsigned" : Text) ∈ Keyword.statementStarts := by
  decide +kernel

/-- What stands between a type and its semicolon is an operator, or no value. -/
theorem IsNamed.value_of_mem_joint (h : IsNamed n name ss p) {x : Parse Joint}
    (hx : x ∈ joint false (ss ++ p :: ps)) : x.value = .between := by
  cases ss with
  | nil =>
    have hnil : joint false (p :: ps) = [] :=
      joint_eq_nil h.word (name.not_mem name.avoids_nil covers_infixes)
    exact absurd (hnil ▸ hx) List.not_mem_nil
  | cons s ss =>
    have hequals : (ss ++ p :: ps).head?.any (·.isMark '=') = false :=
      h.any_eq_false (List.suffix_cons s ss) (isMark_of_word? h.word _) fun _ hq =>
        isMark_of_isMark hq (by decide)
    exact Header.value_of_mem_joint (h.stars.isMark s List.mem_cons_self) hequals hx

theorem IsNamed.endsOperand (h : IsNamed n name ss p) (ps : List Piece) :
    EndsOperand (ss ++ p :: ps) := by
  cases ss with
  | nil => exact .of_word? h.word ps
  | cons s ss => exact .of_isMark (h.stars.isMark s List.mem_cons_self) (by decide) _

/-- A type with what it is the type of is no value that could stand by itself. -/
theorem BaseType.IsShown.statementValue_eq_nil (h : b.IsShown bs)
    (hb : b.avoids operands = true) (hnamed : IsNamed n name ss p)
    (htight : AreTight (ss ++ p :: ps)) (depth : Nat) :
    Statement.value (Phrases.upTo (depth + 1)) true (bs ++ (ss ++ p :: ps)) = [] := by
  have hends := hnamed.endsOperand ps
  cases h with
  | @unsigned q r hq =>
    have hstarts : q.isOneOf Keyword.statementStarts = true := by
      simpa [isOneOf_of_word? hq] using value_words.2
    exact bind_eq_nil (bind_eq_nil (check_eq_nil (by simp [hstarts])))
  | @word b q hne hq =>
    by_cases hprimitive : b.text ∈ Keyword.primitives
    · refine bind_eq_nil (bind_eq_nil_of_forall fun x hx => bind_eq_nil (commas_eq_nil ?_))
      have hrest : x.rest = q :: (ss ++ p :: ps) := by
        unfold check at hx
        split at hx
        · rw [List.mem_singleton.mp hx]
          rfl
        · exact absurd hx List.not_mem_nil
      rw [hrest, Phrases.upTo_succ, Phrases.next_expression]
      exact settle_eq_nil (expression_primitive_eq_nil hq hprimitive hends false)
    · have hname : b.text ∉ Keyword.operands := by
        cases b with
        | unsignedInt => exact absurd rfl hne
        | named base =>
          have havoids : base.avoids Keyword.primitives = true := by
            simpa [Identifier.avoids, BaseType.text] using hprimitive
          exact base.not_mem (Identifier.avoids_append hb havoids) covers_operands_of_types
        | _ => exact absurd (value_words.1 _ (by simp [BaseType.text])) hprimitive
      exact Header.statementValue_eq_nil (binary_or_rest_eq (.ofName hq hname) hends
        (fun x hx => hnamed.value_of_mem_joint hx) htight) (hnamed.isMark (by decide))
        (hnamed.isMark (by decide))

/-! ## Initial values -/

/-- An initial value behind a declarator. -/
def initialized (g : Phrases) : Reader (Option Declarator) := do
  (do mark '='; (do let _ ← g.expression false) <|> group '{' (·.initializer))
    <|> group '(' (·.values) <|> group '{' (·.initializer)
  return none

/-- What stands behind a declarator, if anything: a name for the assembler, or an initial value. -/
def behindDeclarator (g : Phrases) (d : Declarator) : Reader (Option Declarator) :=
  (do
    let _ ← optional assembly
    return some d) <|> initialized g

theorem initDeclarator_eq (g : Phrases) :
    initDeclarator g = settle (declarator g .declaration >>= behindDeclarator g) := rfl

theorem assembly_eq_of_head (hps : ps.head?.any (·.isOneOf Keyword.assembly) = false)
    (d : Declarator) :
    (do
      let _ ← optional assembly
      return some d : Reader (Option Declarator)) ps = [⟨some d, 0, ps⟩] :=
  bind_of_eq (optional_of_eq_nil (bind_eq_nil (word_eq_nil hps)))

/-- Where a declaration ends, nothing stands behind its declarator. -/
theorem behindDeclarator_eq (hps : EndsPhrase ps) (d : Declarator) :
    behindDeclarator g d ps = [⟨some d, 0, ps⟩] := by
  have hvalue : initialized g ps = [] :=
    bind_eq_nil (orElse_eq_nil (bind_eq_nil (mark_eq_nil (hps.isMark (by decide) (by decide))))
      (orElse_eq_nil (group_eq_nil (hps.isGroup _)) (group_eq_nil (hps.isGroup _))))
  exact (orElse_of_right_eq_nil hvalue).trans (assembly_eq_of_head (hps.isOneOf _) d)

/-- Parentheses behind a declarator are left, or read as initial values. -/
theorem rest_of_mem_behindDeclarator (hq : q.isGroup '(' = true) {w : Int}
    (hvalues : ∀ v ∈ q.readings.values, v.weight ≤ w) {d : Declarator}
    {z : Parse (Option Declarator)} (hz : z ∈ behindDeclarator g d (q :: ps)) :
    z.rest = q :: ps ∨ (z.rest = ps ∧ z.weight ≤ w) := by
  have hword : (q :: ps).head?.any (·.isOneOf Keyword.assembly) = false := isOneOf_of_isGroup hq _
  have hequals : mark '=' (q :: ps) = [] := mark_eq_nil (isMark_of_isGroup hq _)
  have hbraces : group '{' (·.initializer) (q :: ps) = [] :=
    group_eq_nil (isGroup_of_isGroup hq (by decide))
  rcases mem_orElse.mp hz with hz | hz
  · rw [assembly_eq_of_head hword, List.mem_singleton] at hz
    exact Or.inl (by rw [hz])
  · obtain ⟨x, hx, u, hu, rfl⟩ := mem_bind.mp hz
    obtain rfl := mem_pure.mp hu
    rw [orElse_of_left_eq_nil (bind_eq_nil hequals), orElse_of_right_eq_nil hbraces] at hx
    obtain ⟨v, hv, rfl⟩ := exists_of_mem_group hx
    exact Or.inr ⟨rfl, by simpa using hvalues v hv⟩

/-! ## Functions -/

/-- The pieces of the declaration of a function. -/
structure IsFunction (b : BaseType) (n : Nat) (name : Identifier) (params : List Variable)
    (bs ss : List Piece) (p q r : Piece) : Prop where
  /-- The type of what it gives. -/
  base : b.IsShown bs
  /-- The stars and the name. -/
  named : IsNamed n name ss p
  /-- The parameters. -/
  params : IsParameterGroup params q
  /-- The semicolon at the end. -/
  semicolon : r.isMark ';' = true

/-- The declarator of a function. -/
def functionDeclarator (n : Nat) (name : Identifier) (params : List Variable) : Declarator :=
  pointers n (.function (.name (some name.text)) (params.map Variable.param))

/-- What such a declaration gives. -/
theorem declarations_functionDeclarator (b : BaseType) (n : Nat) (name : Identifier)
    (params : List Variable) :
    (Content.declared (.plain b.text) [(functionDeclarator n name params).shape]).declarations =
      .ok [(Form.function b n name params).declaration] := by
  have hfunction : functionOf (.plain b.text) (functionDeclarator n name params).shape =
      .ok [(Form.function b n name params).declaration] := by
    rw [functionDeclarator, shape_pointers]
    simp [functionOf, Declarator.shape, Form.declaration, Header.BaseType.name, stars]
  rw [Content.declarations, List.mapM_cons, hfunction]
  rfl

namespace IsFunction

variable (h : IsFunction b n name params bs ss p q r)

include h

theorem endsPhrase : EndsPhrase [r] := .semicolon h.semicolon []

theorem areTight : AreTight (ss ++ [p, q, r]) := by
  intro x hx
  simp only [List.mem_append, List.mem_cons, List.not_mem_nil, or_false] at hx
  rcases hx with hx | rfl | rfl | rfl
  · have hstar := h.named.stars.isMark x hx
    exact ⟨isMark_of_isMark hstar (by decide), isMark_of_isMark hstar (by decide)⟩
  · exact ⟨isMark_of_word? h.named.word _, isMark_of_word? h.named.word _⟩
  · exact ⟨isMark_of_isGroup h.params.group _, isMark_of_isGroup h.params.group _⟩
  · exact ⟨isMark_of_isMark h.semicolon (by decide), isMark_of_isMark h.semicolon (by decide)⟩

variable [g.TakeFront] (hg : g.IsAngled)

include hg

/-- The declarator is read with the parameters, or with an initial value at a smaller weight. -/
theorem isFurthest_initDeclarator (hordered : AreOrdered (ss ++ [p, q, r])) :
    ∃ w, IsFurthest (initDeclarator g) (ss ++ [p, q, r])
        ⟨some (functionDeclarator n name params), w, [r]⟩ ∧
      ∀ y ∈ initDeclarator g (ss ++ [p, q, r]), y.rest = [r] ∨ y.rest = [q, r] := by
  obtain ⟨w, hparams, hvalues⟩ := h.params.params
  have hsuffixed : IsSuffixed .declaration [q, r] (.function · (params.map Variable.param)) (w + 1)
      [r] := .function h.params.group hparams h.endsPhrase
  obtain ⟨hread, hrests⟩ := Header.isFurthest_declarator (u := 0) h.named.stars.isMark
    h.named.endsStar (fun k => declaratorUpTo_name hg h.named.word
      (Identifier.not_mem_reserved h.named.avoids_qualifiers .declaration) hsuffixed.isUnscoped k)
    hsuffixed hordered
  rw [h.named.stars.length_eq] at hread hrests
  have hend := behindDeclarator_eq (g := g) h.endsPhrase
  have hfront : TakesFront (declarator g .declaration >>= behindDeclarator g) := by
    unfold behindDeclarator initialized
    infer_instance
  -- Initial values reach as far as the parameters do, but weigh less.
  have hleads : Leads (declarator g .declaration >>= behindDeclarator g) (ss ++ [p, q, r])
      ⟨some (functionDeclarator n name params), n + (0 + (w + 1)), [r]⟩ := by
    have hmem : (⟨some (functionDeclarator n name params), 0, [r]⟩ : Parse (Option Declarator)) ∈
        behindDeclarator g (functionDeclarator n name params) [r] := by
      rw [hend]
      exact List.mem_singleton_self _
    refine ⟨mem_bind.mpr ⟨_, hread.mem, _, hmem, by simp [pointed]⟩, fun y hy => ?_⟩
    obtain ⟨x, hx, z, hz, rfl⟩ := mem_bind.mp hy
    rcases hrests x hx with rfl | ⟨rfl, -⟩
    · have hone : z ∈ behindDeclarator g _ [r] := hz
      rw [hend, List.mem_singleton] at hone
      left
      rw [hone]
      simp [pointed, functionDeclarator]
    · right
      rcases rest_of_mem_behindDeclarator h.params.group hvalues hz with hrest | ⟨hrest, hweight⟩
      · left
        simp [hrest]
      · right
        refine ⟨hrest, ?_⟩
        simp only [pointed]
        omega
  rw [initDeclarator_eq]
  refine ⟨_, hleads.settle hordered, fun y hy => ?_⟩
  obtain ⟨x, hx, z, hz, rfl⟩ := mem_bind.mp (mem_settle _ hy)
  rcases hrests x hx with rfl | ⟨rfl, -⟩
  · have hone : z ∈ behindDeclarator g _ [r] := hz
    rw [hend, List.mem_singleton] at hone
    exact Or.inl (by rw [hone])
  · exact (rest_of_mem_behindDeclarator h.params.group hvalues hz).elim Or.inr
      fun hrest => Or.inl hrest.1

/-- The declaration is read in one way only. -/
theorem readsOnly_declaration (hb : b.avoids (operands ++ qualifiers) = true)
    (hordered : AreOrdered (bs ++ (ss ++ [p, q, r]))) :
    ∃ w, ReadsOnly (declaration g) (bs ++ (ss ++ [p, q, r]))
      ⟨.declared (.plain b.text) [(functionDeclarator n name params).shape], w, []⟩ := by
  have hspecifiers := specifiers_eq .no h.base hb reserves_statements hg
    (h.named.endsType [q, r]) hordered
  obtain ⟨w, hread, hrests⟩ := h.isFurthest_initDeclarator hg
    (hordered.sublist (List.sublist_append_right _ _))
  let ending (ds : List (Option Declarator)) : Reader Content := do
    mark ';'
    return .declared (.plain b.text) (ds.filterMap fun d => d.map Declarator.shape)
  have hending : ending [some (functionDeclarator n name params)] [r] =
      [⟨.declared (.plain b.text) [(functionDeclarator n name params).shape], 0, []⟩] :=
    bind_of_eq (mark_cons h.semicolon [])
  have hwhole := hread.commas_bind (f := ending) (by simp) (fun y hy => ?_) (fun y hy => ?_)
    (readsOnly_of_eq hending)
  · exact ⟨_, hwhole.of_eq (bind_of_eq hspecifiers)⟩
  · rcases hrests y hy with hy | hy <;> rw [hy]
    · exact isMark_of_isMark h.semicolon (by decide)
    · exact isMark_of_isGroup h.params.group _
  · refine (hrests y hy).imp id fun hy ds => ?_
    rw [hy]
    exact bind_eq_nil (mark_eq_nil (isMark_of_isGroup h.params.group _))

/-- It is no definition, as no body stands behind the parameters. -/
theorem functionDefinition_eq_nil (hb : b.avoids (operands ++ qualifiers) = true)
    (hordered : AreOrdered (bs ++ (ss ++ [p, q, r]))) :
    functionDefinition g Keyword.statements .declaration (bs ++ (ss ++ [p, q, r])) = [] := by
  have hspecifiers := specifiers_eq .no h.base hb reserves_statements hg
    (h.named.endsType [q, r]) hordered
  obtain ⟨w, hparams, -⟩ := h.params.params
  obtain ⟨-, hrests⟩ := h.named.isFurthest_declarator hg
    (.function h.params.group hparams h.endsPhrase : IsSuffixed .declaration [q, r] _ _ [r])
    (hordered.sublist (List.sublist_append_right _ _))
  refine Header.functionDefinition_eq_nil ?_ (readsOnly_of_eq hspecifiers) ?_ fun y hy => ?_
  · obtain ⟨u, us, x, hcons, hu, hopening, -⟩ := h.base.exists_eq_cons
      (BaseType.avoids_of_subset hb (List.subset_append_right _ _))
    have hnot : x ∉ Keyword.conventions := fun hmem => hopening (by simp [openings, hmem])
    rw [hcons]
    simpa [isOneOf_of_word? hu] using hnot
  · refine h.named.isOneOf (fun hmem => name.not_mem_openings ?_) List.suffix_rfl
    simp [openings, hmem]
  · rcases hrests y hy with hy | hy <;> rw [hy]
    · exact ⟨h.endsPhrase.isGroup _, h.endsPhrase.isOneOf _⟩
    · exact ⟨isGroup_of_isGroup h.params.group (by decide), isOneOf_of_isGroup h.params.group _⟩

end IsFunction

/-- **A function** is read as a declaration of that function and as no other content. -/
theorem IsFunction.readsOnly_content {depth : Nat} (h : IsFunction b n name params bs ss p q r)
    (hb : b.avoids (operands ++ qualifiers) = true)
    (hordered : AreOrdered (bs ++ (ss ++ [p, q, r]))) :
    ∃ w, ReadsOnly (content (Phrases.upTo (depth + 1)) true) (bs ++ (ss ++ [p, q, r]))
      ⟨.declared (.plain b.text) [(functionDeclarator n name params).shape], w, []⟩ := by
  have hg := isAngled_upTo (depth + 1)
  obtain ⟨w, hread⟩ := h.readsOnly_declaration hg hb hordered
  have hqualifiers : b.avoids qualifiers = true :=
    BaseType.avoids_of_subset hb (List.subset_append_right _ _)
  have hends := h.named.endsType [q, r]
  have hspecifiers := specifiers_eq .no h.base hb reserves_statements hg hends hordered
  have hconstructor := constructorHead_eq_nil .no h.base hqualifiers hg (h.named.isGroup _) hends
    Keyword.statements
  have hconversion := conversionHead_eq_nil (g := Phrases.upTo (depth + 1)) .no h.base hqualifiers
    hends
  have hvalue := h.base.statementValue_eq_nil
    (BaseType.avoids_of_subset hb (List.subset_append_left _ _)) h.named h.areTight depth
  have hbase := h.base.baseType_eq hb reserves_statements hg hends hordered
  have hempty : emptyDeclaration (Phrases.upTo (depth + 1)) (bs ++ (ss ++ [p, q, r])) = [] :=
    (bind_of_eq hbase).trans (bind_eq_nil (mark_eq_nil (h.named.isMark (by decide))))
  have hfunction := h.functionDefinition_eq_nil hg hb hordered
  have hunscoped := hends.unscoped
  obtain ⟨u, us, x, rfl, hu, hopening, -⟩ := h.base.exists_eq_cons hqualifiers
  have hlead : ∀ words : List Text, words ⊆ openings → x ∉ words :=
    fun words hsub hmem => hopening (hsub hmem)
  have hdefinition : typeDefinition (Phrases.upTo (depth + 1)) (u :: (us ++ (ss ++ [p, q, r]))) =
      [] :=
    BeginsWith.eq_nil hu (hlead _ (by simp [openings])) _
  have hstatement : statement (Phrases.upTo (depth + 1)) true (u :: (us ++ (ss ++ [p, q, r]))) =
      [] := by
    refine statement_eq_nil hu (hlead _ ?_) hvalue (Or.inr ?_)
    · exact fun w hw => by simp [statementLeads, openings] at hw ⊢; grind
    · exact (BaseType.IsShown.isUnscoped h.base hunscoped).colon
  refine ⟨w, hread.of_eq ?_⟩
  refine (content_eq hu (hlead _ ?_) hfunction hconstructor hconversion hstatement).trans ?_
  · exact fun w hw => by simp [contentLeads, openings] at hw ⊢; grind
  · exact orElse_of_right_eq_nil (orElse_eq_nil hempty hdefinition)

end Bindery.Canonical
