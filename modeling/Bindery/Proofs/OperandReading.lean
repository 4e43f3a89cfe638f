import Bindery.Proofs.DeclaratorReading

/-!
# Reading a single operand

A number, or a word that is a value or has no other meaning, is read as an expression in one way
only where nothing follows that could go on with it. Array sizes and the values of enumerations are
such expressions.
-/

namespace Bindery.Header

open Reader Piece Expression

variable {g : Phrases} {p q : Piece} {ps rest : List Piece} {w : Text}

/-- Words with a meaning where an operand begins that are no values by themselves. -/
def valueless : List Text :=
  Keyword.operators ++ Keyword.primitives ++ Keyword.alignmentsOf ++ Keyword.assembly ++
    (["sizeof", "offsetof", "_Generic", "__extension__", "decltype", "requires", "new", "delete",
      "template"] : List Text)

/-- A piece that is an operand by itself. -/
inductive IsOperand (p : Piece) : Prop
  /-- A number. -/
  | ofNumber : p.kind? = some .number → IsOperand p
  /-- A word that is a value. -/
  | ofValue {w : Text} : p.word? = some w → w ∈ Keyword.values → w ∉ valueless → IsOperand p
  /-- A word without another meaning. -/
  | ofName {w : Text} : p.word? = some w → w ∉ Keyword.operands → IsOperand p

theorem word?_eq_none_of_number (h : p.kind? = some .number) : p.word? = none := by
  cases p with
  | group => rfl
  | token n t =>
    have ht : t.kind = .number := Option.some.inj h
    simp [word?, Token.isWord, ht]

theorem valueless_subset_operands : valueless ⊆ Keyword.operands := fun w hw => by
  simp only [valueless, Keyword.operands, List.mem_append] at hw ⊢
  grind

namespace IsOperand

theorem isPlain (h : IsOperand p) : p.IsPlain := by
  cases h with
  | ofNumber hkind => exact Or.inr hkind
  | ofValue hp => exact isPlain_of_word? hp
  | ofName hp => exact isPlain_of_word? hp

theorem not_valueless (h : IsOperand p) : p.isOneOf valueless = false := by
  cases h with
  | ofNumber hkind => exact isOneOf_of_word?_eq_none (word?_eq_none_of_number hkind) _
  | ofValue hp _ hw => simpa [isOneOf_of_word? hp] using hw
  | ofName hp hw =>
    simpa [isOneOf_of_word? hp] using fun hmem => hw (valueless_subset_operands hmem)

/-- What begins with none of the words that are values reads nothing. -/
theorem eq_nil {α : Type} {r : Reader α} {words : List Text} [BeginsWith r words]
    (h : IsOperand p) (hwords : words ⊆ valueless) (ps : List Piece) : r (p :: ps) = [] :=
  BeginsWith.eq_nil_of_isPlain h.isPlain (isOneOf_of_subset h.not_valueless hwords) ps

end IsOperand

/-! ### What ends an operand -/

/-- Pieces that do not belong to an operand before them. -/
structure EndsOperand (ps : List Piece) : Prop where
  /-- They begin with no angle bracket and no colon. -/
  unscoped : IsUnscoped ps
  /-- They begin with no brackets. -/
  group : ∀ c ∈ ['(', '[', '\x7b'], ps.head?.any (·.isGroup c) = false
  /-- They begin with no mark that names a part or counts. -/
  mark : ∀ c ∈ ['.', '-', '+'], ps.head?.any (·.isMark c) = false
  /-- They begin with no text, for which a name before it could stand. -/
  text : ps.head?.any (·.kind? == some TokenKind.text) = false

theorem kind?_of_isMark {c : Char} (h : p.isMark c = true) : p.kind? = some .mark := by
  obtain ⟨n, t, rfl, ht⟩ := exists_of_isMark h
  exact congrArg some (Token.kind_of_isMark ht)

namespace EndsOperand

theorem of_endsPhrase (h : EndsPhrase ps) : EndsOperand ps where
  unscoped := h.isUnscoped
  group c _ := h.isGroup c
  mark c hc := by
    simp only [List.mem_cons, List.not_mem_nil, or_false] at hc
    exact h.isMark (by rintro rfl; simp at hc) (by rintro rfl; simp at hc)
  text := h.any_eq_false fun q hq => by
    rcases hq with hq | hq <;> simp [kind?_of_isMark hq]

theorem of_isMark {c : Char} (hp : p.isMark c = true)
    (hc : c ∉ ['<', ':', '.', '-', '+']) (ps : List Piece) : EndsOperand (p :: ps) := by
  simp only [List.mem_cons, List.not_mem_nil, or_false, not_or] at hc
  refine ⟨⟨isMark_of_isMark hp hc.1, isMark_of_isMark hp hc.2.1⟩, fun d _ => isGroup_of_isMark hp d,
    fun d hd => ?_, by simp [kind?_of_isMark hp]⟩
  simp only [List.mem_cons, List.not_mem_nil, or_false] at hd
  exact isMark_of_isMark hp (by rintro rfl; simp_all)

theorem of_word? (hp : p.word? = some w) (ps : List Piece) : EndsOperand (p :: ps) where
  unscoped := ⟨isMark_of_word? hp _, isMark_of_word? hp _⟩
  group c _ := isGroup_of_word? hp c
  mark c _ := isMark_of_word? hp c
  text := by
    obtain ⟨n, t, rfl, hkind, -⟩ := exists_of_word? hp
    simp [kind?, hkind]

theorem symbol_eq_nil {cs : Text} (h : EndsOperand ps)
    (hcs : cs.head?.any (['.', '-', '+'].contains ·) = true) : symbol cs ps = [] := by
  cases cs with
  | nil => cases hcs
  | cons c cs => exact Reader.symbol_eq_nil (h.mark c (by simpa using hcs))

end EndsOperand

/-! ### Other operands -/

instance : BeginsWith (lambda g) [] := by unfold lambda; infer_instance
instance : BeginsWith (choice g) ["_Generic"] := by unfold choice; infer_instance
instance : BeginsWith assembly Keyword.assembly := by unfold assembly; infer_instance

instance : BeginsWith (creation g) ["new"] := by
  unfold creation
  exact .mono inferInstance (by simp)

instance : BeginsWith (deletion g) ["delete"] := by
  unfold deletion
  exact .mono inferInstance (by simp)

instance : BeginsWith (Expression.measure g)
    ((["sizeof"] : List Text) ++ (Keyword.alignmentsOf ++ (["offsetof"] : List Text))) := by
  unfold Expression.measure
  infer_instance

/-! ### The operand -/

theorem texts_eq_nil (hp : p.IsPlain) (hps : EndsOperand ps) : texts (p :: ps) = [] := by
  have htext : satisfying (fun p => p.kind? == some TokenKind.text) (p :: ps) = [] :=
    satisfying_eq_nil (by rcases hp with hp | hp <;> simp [hp])
  refine orElse_eq_nil (bind_eq_nil htext) ?_
  -- A word stands for a text only where a text follows.
  cases hname : name Keyword.operands (p :: ps) with
  | nil => exact bind_eq_nil hname
  | cons x xs =>
    refine List.flatMap_eq_nil_iff.mpr fun y hy => ?_
    obtain ⟨q, hq⟩ := mem_piece hy
    obtain ⟨-, hrest⟩ := List.cons.inj hq
    rw [← hrest]
    exact List.map_eq_nil_iff.mpr (bind_eq_nil (check_eq_nil hps.text))

theorem character_eq_nil (hp : p.IsPlain) (ps : List Piece) : character (p :: ps) = [] :=
  piece_eq_nil (by rcases hp with hp | hp <;> simp [hp])

theorem number_eq_nil (hp : p.word? = some w) (ps : List Piece) : number (p :: ps) = [] := by
  obtain ⟨n, t, rfl, hkind, -⟩ := exists_of_word? hp
  refine orElse_eq_nil (piece_eq_nil (by simp [kind?, hkind])) (bind_eq_nil (mark_eq_nil ?_))
  exact isMark_of_word? hp '.'

theorem suffixes_eq (hps : EndsOperand ps) (n : Nat) (f : Form) :
    suffixes g n f ps = [⟨f, 0, ps⟩] := by
  cases n with
  | zero => rfl
  | succ n =>
    have harrow : symbol "->" ps = [] := hps.symbol_eq_nil (by with_unfolding_all decide)
    have hpoint : symbol ".*" ps = [] := hps.symbol_eq_nil (by with_unfolding_all decide)
    have hmore : symbol "++" ps = [] := hps.symbol_eq_nil (by with_unfolding_all decide)
    have hless : symbol "--" ps = [] := hps.symbol_eq_nil (by with_unfolding_all decide)
    have hpart : (symbol "->" <|> symbol ".*" <|> do
        mark '.'
        check fun ps => !ps.head?.any fun p => p.isMark '*' && p.adjoins) ps = [] :=
      orElse_eq_nil harrow (orElse_eq_nil hpoint
        (bind_eq_nil (mark_eq_nil (hps.mark _ (by decide)))))
    have hsuffix : suffix g ps = [] :=
      orElse_eq_nil
        (bind_eq_nil (orElse_eq_nil (group_eq_nil (hps.group _ (by decide)))
          (orElse_eq_nil (group_eq_nil (hps.group _ (by decide))) (bind_eq_nil hpart))))
        (bind_eq_nil (orElse_eq_nil hmore hless))
    exact orElse_of_left_eq_nil (bind_eq_nil hsuffix)

private theorem joints_begin : ∀ e ∈ joints,
    (Text.ofString e.1).head?.any (fun c => c != ',' && c != ';') = true := by
  decide +kernel

/-- No operator follows an operand that ends its phrase. -/
theorem jointAt_eq_none (hps : EndsPhrase ps) (angled : Bool) : jointAt angled ps = none := by
  have hsymbols : ∀ e ∈ joints, behindSymbol (Text.ofString e.1) ps = none := fun e he =>
    hps.behindSymbol_eq_none (joints_begin e he)
  have hinfixes := hps.isOneOf Keyword.infixes
  have hassignments := hps.isOneOf Keyword.assignments
  cases ps with
  | nil => rfl
  | cons q ps =>
    have hq : ∀ words, (q :: ps).head?.any (·.isOneOf words) = q.isOneOf words := fun _ => rfl
    rw [hq] at hinfixes hassignments
    rw [jointAt, hinfixes, hassignments, List.findSome?_eq_none_iff.mpr]
    · simp
    · intro e he
      simp only [hsymbols e he, Option.map_none]

namespace IsOperand

variable (h : IsOperand p)

include h

/-- What an operand is read as by itself. -/
theorem exists_primary_eq (hg : g.IsAngled) (hps : EndsOperand ps) :
    ∃ assignable, primary g (p :: ps) = [⟨{ assignable := assignable }, 0, ps⟩] := by
  have hothers : ((do group '(' (·.expression); return { assignable := true })
      <|> (do
        word Keyword.primitives
        (do group '{' (·.initializer); return {}) <|> do
          group '(' (·.arguments)
          return { assignable := true })
      <|> (do
        (do group '(' (·.typeName); group '{' (·.initializer)) <|> lambda g <|>
          Expression.measure g <|> choice g <|> assembly <|> creation g <|> deletion g
        return {}) : Reader Form) (p :: ps) = [] := by
    refine h.eq_nil (fun w hw => ?_) ps
    simp only [valueless, List.mem_append, List.mem_cons, List.not_mem_nil] at hw ⊢
    grind
  have htemplate : p.isOneOf ["decltype", "template"] = false :=
    isOneOf_of_subset h.not_valueless (by simp [valueless])
  have hunnamed : name Keyword.operands (p :: ps) = [] → named g (p :: ps) = [] := fun hname =>
    bind_eq_nil (qualifiedName_eq_nil hname htemplate (h.isPlain.isMark ':'))
  have hcharacter : character (p :: ps) = [] := character_eq_nil h.isPlain ps
  have htexts : texts (p :: ps) = [] := texts_eq_nil h.isPlain hps
  have hbrace : (do group '{' (·.initializer); return {} : Reader Form) ps = [] :=
    bind_eq_nil (group_eq_nil (hps.group _ (by decide)))
  have hplain := h.isPlain
  rw [primary, orElse_apply, orElse_apply, hothers, List.append_nil]
  cases h with
  | ofNumber hkind =>
    have hword : p.word? = none := word?_eq_none_of_number hkind
    have hnumber : number (p :: ps) = [⟨(), 0, ps⟩] := by
      have hpoint : (p :: ps).head?.any (·.isMark '.') = false := hplain.isMark _
      rw [number, orElse_of_right_eq_nil (bind_eq_nil (mark_eq_nil hpoint))]
      exact piece_cons (by simp [hkind]) ps
    have hvalue : word Keyword.values (p :: ps) = [] :=
      word_eq_nil (isOneOf_of_word?_eq_none hword _)
    refine ⟨false, ?_⟩
    rw [bind_eq_nil (hunnamed (name_eq_nil hword)), List.nil_append]
    exact bind_of_eq (a := ()) (by simp [orElse_apply, hnumber, hcharacter, htexts, hvalue])
  | @ofValue w hp hw hspecial =>
    have hvalue : word Keyword.values (p :: ps) = [⟨(), 0, ps⟩] :=
      word_cons (by simpa [isOneOf_of_word? hp] using hw) ps
    have hmem := name_cons_of_mem hp (show w ∈ Keyword.operands by simp [Keyword.operands, hw]) ps
    refine ⟨false, ?_⟩
    rw [bind_eq_nil (hunnamed hmem), List.nil_append]
    exact bind_of_eq (a := ()) (by
      simp [orElse_apply, number_eq_nil hp, hcharacter, htexts, hvalue])
  | ofName hp hw =>
    have hvalue : word Keyword.values (p :: ps) = [] :=
      word_eq_nil_of_word? hp fun hmem => hw (by simp [Keyword.operands, hmem])
    have hnamed : named g (p :: ps) = [⟨(), 0, ps⟩] :=
      bind_of_eq (qualifiedName_cons hg hp hw (fun hmem => hw (by
        simp [Keyword.operands] at hmem ⊢; grind)) hps.unscoped)
    refine ⟨true, ?_⟩
    rw [bind_of_eq hnamed, orElse_of_left_eq_nil hbrace, pure_apply,
      bind_eq_nil (by simp [orElse_apply, number_eq_nil hp, hcharacter, htexts, hvalue])]
    rfl

/-- With nothing before or behind it, the operand is read as it is. -/
theorem exists_operand_eq (hg : g.IsAngled) (hps : EndsOperand ps) (angled : Bool) :
    ∃ assignable, operand g angled (p :: ps) = [⟨{ assignable := assignable }, 0, ps⟩] := by
  obtain ⟨assignable, hprimary⟩ := h.exists_primary_eq hg hps
  refine ⟨assignable, ?_⟩
  have hmark : ∀ c, (p :: ps).head?.any (·.isMark c) = false := h.isPlain.isMark
  have hword : ∀ words : List Text, words ⊆ valueless → word words (p :: ps) = [] :=
    fun words hwords => h.eq_nil hwords ps
  have hpointer : (mark '*' <|> mark '&' : Reader Unit) (p :: ps) = [] :=
    orElse_eq_nil (mark_eq_nil (hmark _)) (mark_eq_nil (hmark _))
  have hbefore : (mark '-' <|> mark '+' <|> mark '!' <|> mark '~' <|> word Keyword.operators <|>
      group '(' (·.typeName) <|> word ["sizeof"] : Reader Unit) (p :: ps) = [] := by
    refine h.eq_nil (fun w hw => ?_) ps
    simp only [valueless, List.mem_append, List.mem_cons, List.not_mem_nil] at hw ⊢
    grind
  refine (orElse_of_right_eq_nil (orElse_eq_nil (bind_eq_nil hpointer) (orElse_eq_nil
    (bind_eq_nil hbefore) (bind_eq_nil (hword ["__extension__"] (by simp [valueless])))))).trans ?_
  exact (bind_of_eq hprimary).trans (suffixes_eq hps _ _)

/-- **A single operand** is read as an expression in one way only. -/
theorem exists_expression_eq (hg : g.IsAngled) (hps : EndsPhrase ps) :
    ∃ form, expression g false (p :: ps) = [⟨form, 0, ps⟩] := by
  obtain ⟨assignable, hoperand⟩ := h.exists_operand_eq hg (.of_endsPhrase hps) false
  have hpack : symbol "..." ps = [] := hps.symbol_eq_nil (by with_unfolding_all decide)
  have hjoint : joint false ps = [] := by
    rw [joint, jointAt_eq_none hps]
    rfl
  refine ⟨{ assignable := assignable }, ?_⟩
  rw [expression, bind_of_eq hoperand]
  refine (bind_of_eq (orElse_of_left_eq_nil (bind_eq_nil hpack))).trans ?_
  exact orElse_of_left_eq_nil (bind_eq_nil hjoint)

end IsOperand

/-- In every layer but the lowest one. -/
theorem IsOperand.exists_upTo_expression_eq (h : IsOperand p) (hps : EndsPhrase ps) (depth : Nat) :
    ∃ form, (Phrases.upTo (depth + 1)).expression false (p :: ps) = [⟨form, 0, ps⟩] := by
  obtain ⟨form, hform⟩ := h.exists_expression_eq (isAngled_upTo depth) hps
  refine ⟨form, ?_⟩
  rw [Phrases.upTo_succ, Phrases.next_expression]
  exact settle_of_eq hform

/-! ### A number in brackets -/

instance [g.TakeFront] : TakesFront (argument g) := by unfold argument; infer_instance

section Number

variable (hp : p.kind? = some .number) (depth : Nat)

include hp

theorem areOrdered_number : AreOrdered [p] := by
  cases p with
  | group => cases hp
  | token n t => exact ⟨by simp [Piece.tokens], List.pairwise_singleton _ _⟩

theorem expression_number :
    (do let _ ← (Phrases.upTo (depth + 1)).expression false : Reader Unit) [p] =
      [⟨(), 0, []⟩] := by
  have hends : EndsPhrase [] := fun q hq => nomatch hq
  obtain ⟨form, hform⟩ := (IsOperand.ofNumber hp).exists_upTo_expression_eq hends depth
  exact bind_of_eq hform

/-- A number is the size of an array. -/
theorem sizeOf?_number : sizeOf? (Phrases.upTo (depth + 1)) [p] = some ⟨Piece.spelling [p], 0⟩ := by
  have hword : p.isOneOf ("static" :: Keyword.qualifiers) = false :=
    isOneOf_of_word?_eq_none (word?_eq_none_of_number hp) _
  have hmark : [p].head?.any (·.isMark '*') = false := (IsOperand.ofNumber hp).isPlain.isMark _
  have hread : ((do let _ ← (Phrases.upTo (depth + 1)).expression false) <|> mark '*') [p] =
      [⟨(), 0, []⟩] := by
    rw [orElse_of_right_eq_nil (mark_eq_nil hmark)]
    exact expression_number hp depth
  have hwhole := (readsOnly_of_eq hread).isFurthest.leads.whole (areOrdered_number hp)
  have hdrop : dropSizeWords [p] = [p] := by
    rw [dropSizeWords, List.dropWhile_cons_of_neg (by simp [hword])]
  rw [sizeOf?, hdrop, if_neg (by simp), hwhole]
  rfl

/-- A number is the argument of a subscript, at no weight. -/
theorem arguments_number :
    list false (argument (Phrases.upTo (depth + 1))) [p] = some ⟨[()], 0⟩ := by
  have hordered := areOrdered_number hp
  have hgroup : ∀ c, ([p] : List Piece).head?.any (·.isGroup c) = false :=
    (IsOperand.ofNumber hp).isPlain.isGroup
  have hread : ((do let _ ← (Phrases.upTo (depth + 1)).expression false)
      <|> group '{' (·.initializer) <|> block) [p] = [⟨(), 0, []⟩] := by
    rw [orElse_of_right_eq_nil (orElse_eq_nil (group_eq_nil (hgroup _)) (block_eq_nil (hgroup _)))]
    exact expression_number hp depth
  have hargument : argument (Phrases.upTo (depth + 1)) ([p] ++ []) = [⟨(), 0, []⟩] :=
    settle_of_eq hread
  have hmember := (readsOnly_of_eq hargument).isFurthest.listEntry
    (List.forall_mem_singleton.mpr ((IsOperand.ofNumber hp).isPlain.isMark ',')) EndsMember.last
  have hrow := IsRow.cons hmember List.nil_suffix (Nat.lt_succ_self 0) .nil
  rw [list_of_ne_nil false (List.cons_ne_nil p [])]
  exact hrow.all hordered

end Number

end Bindery.Header
