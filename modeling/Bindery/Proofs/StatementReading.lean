import Bindery.Proofs.FieldReading

/-!
# What is no statement

A declaration of a function begins as a product does: a type and stars could be operands and
operators. Such a value is refused where declarations stand, as an operator stands between its
operands at the outermost level. Nor is a declaration a statement of any other kind.
-/

namespace Bindery.Header

open Reader Piece Expression

variable {g : Phrases} {p q : Piece} {ps : List Piece} {w : Text}

/-! ### Operators that bind tightly -/

/-- Pieces without the marks of an expression that is loose: the points of a pack, and the colon
between two choices. -/
def AreTight (ps : List Piece) : Prop := ∀ p ∈ ps, p.isMark '.' = false ∧ p.isMark ':' = false

theorem AreTight.suffix {rest : List Piece} (h : AreTight ps) (hrest : rest <:+ ps) :
    AreTight rest :=
  fun p hp => h p (hrest.subset hp)

theorem AreTight.head (h : AreTight ps) :
    ps.head?.any (·.isMark '.') = false ∧ ps.head?.any (·.isMark ':') = false := by
  cases ps with
  | nil => exact ⟨rfl, rfl⟩
  | cons p ps => exact h p List.mem_cons_self

/-- An operand alone is not loose. -/
class Reader.IsTight (r : Reader Form) : Prop where
  loose_eq_false : ∀ {ps : List Piece}, ∀ x ∈ r ps, x.value.loose = false

namespace Reader

variable {α : Type}

instance (assignable binary : Bool) : IsTight (pure ⟨assignable, binary, false⟩) where
  loose_eq_false x hx := by
    obtain rfl := mem_pure.mp hx
    rfl

instance (r : Reader α) (f : α → Reader Form) [hf : ∀ a, IsTight (f a)] : IsTight (r >>= f) where
  loose_eq_false y hy := by
    obtain ⟨x, -, z, hz, rfl⟩ := mem_bind.mp hy
    exact (hf x.value).loose_eq_false z hz

instance (r s : Reader Form) [hr : IsTight r] [hs : IsTight s] : IsTight (r <|> s) where
  loose_eq_false x hx := (mem_orElse.mp hx).elim (hr.loose_eq_false x) (hs.loose_eq_false x)

end Reader

instance : IsTight (primary g) := by unfold primary; infer_instance
instance : IsTight (suffix g) := by unfold suffix; infer_instance

theorem loose_of_mem_suffixes {n : Nat} {f : Form} (hf : f.loose = false) {x : Parse Form}
    (hx : x ∈ suffixes g n f ps) : x.value.loose = false := by
  induction n generalizing f ps x with
  | zero =>
    obtain rfl := mem_pure.mp hx
    exact hf
  | succ n ih =>
    rcases mem_orElse.mp hx with hx | hx
    · obtain ⟨y, hy, z, hz, rfl⟩ := mem_bind.mp hx
      have hloose := ih (IsTight.loose_eq_false y hy) hz
      exact hloose
    · obtain rfl := mem_pure.mp hx
      exact hf

/-- In every layer an expression of such pieces is not loose, and its operands are not. -/
class Phrases.AreTight (g : Phrases) : Prop where
  expression : ∀ {angled ps}, Header.AreTight ps →
    ∀ x ∈ g.expression angled ps, x.value.loose = false
  operand : ∀ {angled ps}, Header.AreTight ps → ∀ x ∈ g.operand angled ps, x.value.loose = false

section Tight

variable [hg : g.AreTight] (hps : AreTight ps) {angled : Bool} {x : Parse Form}

include hps

theorem loose_of_mem_operand (hx : x ∈ operand g angled ps) : x.value.loose = false := by
  rcases mem_orElse.mp hx with hx | hx
  · obtain ⟨y, hy, z, hz, rfl⟩ := mem_bind.mp hx
    have hloose := loose_of_mem_suffixes (IsTight.loose_eq_false y hy) hz
    exact hloose
  rcases mem_orElse.mp hx with hx | hx
  · obtain ⟨y, hy, z, hz, rfl⟩ := mem_bind.mp hx
    obtain ⟨u, hu, v, hv, rfl⟩ := mem_bind.mp hz
    obtain rfl := mem_pure.mp hv
    exact hg.operand (hps.suffix (TakesFront.suffix hy)) u hu
  rcases mem_orElse.mp hx with hx | hx
  · obtain ⟨y, hy, z, hz, rfl⟩ := mem_bind.mp hx
    exact hg.operand (hps.suffix (TakesFront.suffix hy)) z hz
  · obtain ⟨y, hy, z, hz, rfl⟩ := mem_bind.mp hx
    exact hg.expression (hps.suffix (TakesFront.suffix hy)) z hz

theorem loose_of_mem_expression [g.TakeFront] (hx : x ∈ expression g angled ps) :
    x.value.loose = false := by
  obtain ⟨y, hy, z, hz, rfl⟩ := mem_bind.mp hx
  have hbehind := hps.suffix (TakesFront.suffix hy)
  have hpack : symbol "..." y.rest = [] := by
    rw [show ("..." : Text) = ['.', '.', '.'] by with_unfolding_all decide]
    exact symbol_eq_nil hbehind.head.1
  rw [bind_of_eq (orElse_of_left_eq_nil (bind_eq_nil hpack))] at hz
  rcases mem_orElse.mp hz with hz | hz
  · obtain ⟨j, hj, u, hu, rfl⟩ := mem_bind.mp hz
    have hright := hbehind.suffix (TakesFront.suffix hj)
    -- What is behind the joint decides.
    cases hvalue : j.value <;> rw [hvalue] at hu
    case between =>
      obtain ⟨right, hread, v, hv, rfl⟩ := mem_bind.mp hu
      obtain rfl := mem_pure.mp hv
      exact hg.expression hright right hread
    case assigning =>
      change u ∈ (if y.value.assignable then _ else fail : Reader Form) j.rest at hu
      split at hu
      · obtain ⟨_, -, v, hv, rfl⟩ := mem_bind.mp hu
        obtain rfl := mem_pure.mp hv
        rfl
      · exact absurd hu List.not_mem_nil
    case asking =>
      obtain ⟨v, hv, t, ht, rfl⟩ := mem_bind.mp hu
      have hcolon := (hright.suffix (TakesFront.suffix hv)).head.2
      exact absurd (bind_eq_nil (mark_eq_nil hcolon) ▸ ht) List.not_mem_nil
    case expanding => exact absurd hu List.not_mem_nil
    case suffix => exact absurd hu List.not_mem_nil
  · obtain rfl := mem_pure.mp hz
    have hloose := loose_of_mem_operand hps hy
    exact hloose

end Tight

instance [g.TakeFront] [g.AreTight] : g.next.AreTight where
  expression {angled ps} hps x hx := by
    rw [Phrases.next_expression] at hx
    exact loose_of_mem_expression hps (mem_settle _ hx)
  operand {angled ps} hps x hx := by
    rw [Phrases.next_operand] at hx
    exact loose_of_mem_operand hps (mem_settle _ hx)

instance (depth : Nat) : (Phrases.upTo depth).AreTight := by
  induction depth with
  | zero =>
    exact ⟨fun _ _ hx => absurd hx List.not_mem_nil, fun _ _ hx => absurd hx List.not_mem_nil⟩
  | succ n ih =>
    rw [Phrases.upTo_succ]
    infer_instance

/-! ### A type as an operand -/

private theorem joints_star : ∀ e ∈ joints, (Text.ofString e.1).head?.any (· != '*') = true ∨
    e = ("*=", .assigning) ∨ e = ("*", .between) := by
  decide +kernel

/-- A star with no equals sign behind it stands between two operands. -/
theorem value_of_mem_joint {angled : Bool} (hp : p.isMark '*' = true)
    (hps : ps.head?.any (·.isMark '=') = false) {x : Parse Joint}
    (hx : x ∈ joint angled (p :: ps)) : x.value = .between := by
  obtain ⟨⟨j, rest⟩, hj, rfl⟩ := List.mem_map.mp hx
  have hangle : (angled && p.isMark '>') = false := by
    simp [isMark_of_isMark hp (show '*' ≠ '>' by decide)]
  rw [Option.mem_toList, jointAt, hangle, isOneOf_of_isMark hp, isOneOf_of_isMark hp] at hj
  obtain ⟨e, he, hsymbol⟩ := List.exists_of_findSome?_eq_some hj
  obtain ⟨found, hfound, hpair⟩ := Option.map_eq_some_iff.mp hsymbol
  rcases joints_star e he with hother | rfl | rfl
  · cases hcs : Text.ofString e.1 with
    | nil =>
      rw [hcs] at hother
      cases hother
    | cons c cs =>
      rw [hcs] at hother hfound
      have hc : (p :: ps).head?.any (·.isMark c) = false :=
        isMark_of_isMark hp (bne_iff_ne.mp hother).symm
      rw [behindSymbol_eq_none hc] at hfound
      cases hfound
  · have hequals : behindSymbol ['*', '='] (p :: ps) = none := by
      cases ps with
      | nil => rfl
      | cons q ps =>
        have hq : q.isMark '=' = false := hps
        simp [behindSymbol, hq]
    rw [show Text.ofString "*=" = ['*', '='] by with_unfolding_all decide, hequals] at hfound
    cases hfound
  · exact (Prod.ext_iff.mp hpair).1.symm

private theorem joints_ne_nil : ∀ e ∈ joints, Text.ofString e.1 ≠ [] := by decide +kernel

/-- No operator begins with a word that is none. -/
theorem joint_eq_nil {angled : Bool} (hp : p.word? = some w)
    (hw : w ∉ Keyword.infixes ++ Keyword.assignments) : joint angled (p :: ps) = [] := by
  have hangle : (angled && p.isMark '>') = false := by simp [isMark_of_word? hp]
  have hinfixes : p.isOneOf Keyword.infixes = false := by
    simpa [isOneOf_of_word? hp] using fun hmem => hw (List.mem_append_left _ hmem)
  have hassignments : p.isOneOf Keyword.assignments = false := by
    simpa [isOneOf_of_word? hp] using fun hmem => hw (List.mem_append_right _ hmem)
  rw [joint, jointAt, hangle, hinfixes, hassignments, List.findSome?_eq_none_iff.mpr]
  · rfl
  · intro e he
    obtain ⟨c, cs, hcs⟩ := List.exists_cons_of_ne_nil (joints_ne_nil e he)
    have hc : (p :: ps).head?.any (·.isMark c) = false := isMark_of_word? hp c
    simp only [hcs, behindSymbol_eq_none hc, Option.map_none]

section Value

variable {depth : Nat} {rest : List Piece}

/-- Where what stands behind an operand is an operator between operands, if it is one, the operand
alone is read, or the outermost operator stands between operands. -/
theorem binary_or_rest_eq (h : IsOperand p) (hends : EndsOperand rest)
    (hjoint : ∀ x ∈ joint false rest, x.value = .between) (htight : AreTight rest) :
    ∀ x ∈ (Phrases.upTo (depth + 1)).expression false (p :: rest),
      x.value.binary = true ∨ x.rest = rest := by
  intro x hx
  rw [Phrases.upTo_succ, Phrases.next_expression] at hx
  replace hx := mem_settle _ hx
  obtain ⟨assignable, hoperand⟩ := h.exists_operand_eq (isAngled_upTo depth) hends false
  have hpack : symbol "..." rest = [] := by
    rw [show ("..." : Text) = ['.', '.', '.'] by with_unfolding_all decide]
    exact symbol_eq_nil htight.head.1
  rw [expression, bind_of_eq hoperand, bind_of_eq (orElse_of_left_eq_nil (bind_eq_nil hpack))] at hx
  rcases mem_orElse.mp hx with hx | hx
  · left
    obtain ⟨j, hj, u, hu, rfl⟩ := mem_bind.mp hx
    rw [hjoint j hj] at hu
    obtain ⟨right, hright, v, hv, rfl⟩ := mem_bind.mp hu
    obtain rfl := mem_pure.mp hv
    have hloose := Phrases.AreTight.expression (htight.suffix (TakesFront.suffix hj)) right hright
    simp [hloose]
  · obtain rfl := mem_pure.mp hx
    exact Or.inr rfl

/-- A value that ends with its first operand, or has an operator between operands, is none at the
outermost level where no semicolon and no comma stand behind the operand. -/
theorem statementValue_eq_nil {g : Phrases}
    (h : ∀ x ∈ g.expression false ps, x.value.binary = true ∨ x.rest = rest)
    (hcomma : rest.head?.any (·.isMark ',') = false)
    (hsemicolon : rest.head?.any (·.isMark ';') = false) : Statement.value g true ps = [] := by
  have hoperates : ∀ x ∈ Statement.operation g ps, x.value = true := by
    intro x hx
    obtain ⟨y, hy, u, hu, rfl⟩ := mem_bind.mp hx
    have hrest : y.rest = ps := by
      unfold check at hy
      split at hy
      · rw [List.mem_singleton.mp hy]
      · exact absurd hy List.not_mem_nil
    rw [hrest] at hu
    obtain ⟨forms, hforms, v, hv, rfl⟩ := mem_bind.mp hu
    obtain ⟨e, he, z, hz, rfl⟩ := mem_bind.mp hv
    obtain rfl := mem_pure.mp hz
    obtain ⟨a, ha, ⟨as, hvalue⟩, honly⟩ := exists_of_mem_commas hforms
    rcases h a ha with hbinary | hbehind
    · simp [hvalue, hbinary]
    · rw [honly (hbehind ▸ mark_eq_nil hcomma), hbehind, mark_eq_nil hsemicolon] at he
      exact absurd he List.not_mem_nil
  refine bind_eq_nil_of_forall fun x hx => ?_
  rw [hoperates x hx]
  rfl

end Value

/-! ### Types that are no operands -/

/-- Words that begin an operand, besides the names of simple types. -/
def operandLeads : List Text :=
  Keyword.values ++ Keyword.operators ++ Keyword.alignmentsOf ++ Keyword.assembly ++
    (["sizeof", "offsetof", "_Generic", "__extension__", "decltype", "requires", "new", "delete",
      "template"] : List Text)

private theorem primitives_words : ∀ w ∈ Keyword.primitives,
    w ∈ Keyword.operands ∧ w ∉ operandLeads := by
  decide +kernel

section Primitive

variable (hp : p.word? = some w) (hw : w ∈ Keyword.primitives) (hps : EndsOperand ps)

include hp hw hps

theorem primary_primitive_eq_nil : primary g (p :: ps) = [] := by
  obtain ⟨hoperand, hother⟩ := primitives_words w hw
  have hnone : ∀ words : List Text, words ⊆ operandLeads → w ∉ words :=
    fun words hsub hmem => hother (hsub hmem)
  have hname : name Keyword.operands (p :: ps) = [] := name_cons_of_mem hp hoperand ps
  have htemplate : (p :: ps).head?.any (·.isOneOf ["decltype", "template"]) = false := by
    simpa [isOneOf_of_word? hp] using hnone ["decltype", "template"] (by simp [operandLeads])
  have hnamed : named g (p :: ps) = [] :=
    bind_eq_nil (qualifiedName_eq_nil hname htemplate (isMark_of_word? hp ':'))
  have htexts : texts (p :: ps) = [] := texts_eq_nil (isPlain_of_word? hp) hps
  have hvalues : word Keyword.values (p :: ps) = [] :=
    word_eq_nil_of_word? hp (hnone _ fun u hu => by simp [operandLeads, hu])
  have hbrackets : ((do group '{' (·.initializer); return {}) <|> do
      group '(' (·.arguments)
      return { assignable := true } : Reader Form) ps = [] :=
    orElse_eq_nil (bind_eq_nil (group_eq_nil (hps.group _ (by decide))))
      (bind_eq_nil (group_eq_nil (hps.group _ (by decide))))
  have hprimitives : word Keyword.primitives (p :: ps) = [⟨(), 0, ps⟩] :=
    word_cons (by simpa [isOneOf_of_word? hp] using hw) ps
  refine orElse_eq_nil (bind_eq_nil hnamed) (orElse_eq_nil (bind_eq_nil ?_) (orElse_eq_nil ?_
    (orElse_eq_nil ((bind_of_eq hprimitives).trans hbrackets) (bind_eq_nil ?_))))
  · exact orElse_eq_nil (number_eq_nil hp ps) (orElse_eq_nil
      (character_eq_nil (isPlain_of_word? hp) ps) (orElse_eq_nil htexts hvalues))
  · exact bind_eq_nil (group_eq_nil (isGroup_of_word? hp _))
  · refine BeginsWith.eq_nil hp (fun hmem => hother ?_) ps
    exact (by decide +kernel : _ ⊆ operandLeads) hmem

/-- The name of a simple type is no value where no brackets follow. -/
theorem expression_primitive_eq_nil (angled : Bool) : expression g angled (p :: ps) = [] := by
  obtain ⟨-, hother⟩ := primitives_words w hw
  have hword : ∀ words : List Text, words ⊆ operandLeads → word words (p :: ps) = [] :=
    fun words hsub => word_eq_nil_of_word? hp fun hmem => hother (hsub hmem)
  have hpointer : (mark '*' <|> mark '&' : Reader Unit) (p :: ps) = [] :=
    BeginsWith.eq_nil hp List.not_mem_nil ps
  have hbefore : (mark '-' <|> mark '+' <|> mark '!' <|> mark '~' <|> word Keyword.operators <|>
      group '(' (·.typeName) <|> word ["sizeof"] : Reader Unit) (p :: ps) = [] := by
    refine BeginsWith.eq_nil hp (fun hmem => hother ?_) ps
    exact (by decide +kernel : _ ⊆ operandLeads) hmem
  have hoperand : operand g angled (p :: ps) = [] :=
    orElse_eq_nil (bind_eq_nil (primary_primitive_eq_nil hp hw hps)) (orElse_eq_nil
      (bind_eq_nil hpointer) (orElse_eq_nil (bind_eq_nil hbefore)
        (bind_eq_nil (hword _ (by simp [operandLeads])))))
  exact bind_eq_nil hoperand

end Primitive

/-! ### Statements -/

/-- Words that begin a statement that is no value and no label. -/
def statementLeads : List Text :=
  ["return", "break", "continue", "goto", "throw", "co_return", "co_yield", "if", "switch",
    "while", "do", "for", "try", "case", "default"]

instance : BeginsWith (Statement.leaving g)
    ["return", "break", "continue", "goto", "throw", "co_return", "co_yield"] := by
  unfold Statement.leaving
  exact .mono inferInstance (by simp)

/-- What is no value, no label and begins with no word that begins a statement is none. -/
theorem statement_eq_nil {top : Bool} (hp : p.word? = some w) (hw : w ∉ statementLeads)
    (hvalue : Statement.value g top (p :: ps) = [])
    (hlabel : w ∈ Keyword.statements ∨ ps.head?.any (·.isMark ':') = false) :
    statement g top (p :: ps) = [] := by
  have hlead : ∀ words : List Text, words ⊆ statementLeads → word words (p :: ps) = [] :=
    fun words hsub => word_eq_nil_of_word? hp fun hmem => hw (hsub hmem)
  have hone : ∀ u ∈ statementLeads, word [u] (p :: ps) = [] :=
    fun u hu => hlead [u] fun v hv => List.mem_singleton.mp hv ▸ hu
  have hmark : mark ';' (p :: ps) = [] := mark_eq_nil (isMark_of_word? hp ';')
  have hblock : block (p :: ps) = [] := block_eq_nil (isGroup_of_word? hp _)
  have hleaving : Statement.leaving g (p :: ps) = [] :=
    BeginsWith.eq_nil hp (fun hmem => hw ((by simp [statementLeads] : _ ⊆ statementLeads) hmem)) ps
  have hgroup : (p :: ps).head?.any (·.isGroup '[') = false := isGroup_of_word? hp _
  have hbrackets : (dropBracketAttributes? (p :: ps)).isSome = false := by
    rw [dropBracketAttributes?_eq_none hgroup]
    rfl
  rw [statement, statementUpTo]
  refine orElse_eq_nil hmark (orElse_eq_nil hblock (orElse_eq_nil hvalue
    (orElse_eq_nil hleaving ?_)))
  -- The statements that begin with a word of their own.
  iterate 8 refine orElse_eq_nil (bind_eq_nil (hone _ (by simp [statementLeads]))) ?_
  refine orElse_eq_nil ?_ (bind_eq_nil (check_eq_nil hbrackets))
  rcases hlabel with hmem | hcolon
  · exact bind_eq_nil (name_cons_of_mem hp hmem ps)
  · refine bind_eq_nil_of_forall fun x hx => bind_eq_nil_of_forall fun y hy => ?_
    obtain ⟨q, hq⟩ := mem_piece hx
    have hrest : y.rest = ps := by
      unfold notAScope check at hy
      split at hy
      · rw [List.mem_singleton.mp hy]
        exact (List.cons.inj hq).2.symm
      · exact absurd hy List.not_mem_nil
    rw [hrest]
    exact bind_eq_nil (mark_eq_nil hcolon)

end Bindery.Header
