import Bindery.Proofs.OperandReading

/-!
# Values that could be parameters

Where an initial value may stand in parentheses, parameters may stand as well. Pieces that show
parameters are words, stars, commas and sizes of arrays; a value that is read from such pieces
weighs nothing, as nothing of what weighs something can begin there. So the parameters are
preferred.
-/

namespace Bindery.Header

open Reader Piece Expression

variable {α β : Type} {p : Piece} {ps : List Piece} {x : Parse α}

/-! ### Flat pieces -/

/-- Words that stand before an operand or begin one that is no name. -/
def operatorWords : List Text :=
  Keyword.operators ++ Keyword.assembly ++
    (["sizeof", "_Generic", "__extension__", "decltype", "requires", "new", "delete",
      "template"] : List Text)

/-- A piece that may show a part of a parameter. -/
inductive IsFlat (p : Piece) : Prop
  /-- A word that begins no operand, unless it is one. -/
  | word {w : Text} : p.word? = some w → w ∉ operatorWords → IsFlat p
  /-- A star. -/
  | star : p.isMark '*' = true → IsFlat p
  /-- The size of an array. -/
  | size : p.isGroup '[' = true → p.readings.subscript = some ⟨(), 0⟩ → IsFlat p

namespace IsFlat

theorem isMark {c : Char} (h : IsFlat p) (hstar : '*' ≠ c) : p.isMark c = false := by
  cases h with
  | word hp => exact isMark_of_word? hp c
  | star hp => exact isMark_of_isMark hp hstar
  | size hp => exact isMark_of_isGroup hp c

theorem isGroup {c : Char} (h : IsFlat p) (hbracket : '[' ≠ c) : p.isGroup c = false := by
  cases h with
  | word hp => exact isGroup_of_word? hp c
  | star hp => exact isGroup_of_isMark hp c
  | size hp => exact isGroup_of_isGroup hp hbracket

theorem isOneOf {words : List Text} (h : IsFlat p) (hwords : words ⊆ operatorWords) :
    p.isOneOf words = false := by
  cases h with
  | word hp hw => simpa [isOneOf_of_word? hp] using fun hmem => hw (hwords hmem)
  | star hp => exact isOneOf_of_isMark hp words
  | size hp => exact isOneOf_of_isGroup hp words

end IsFlat

/-- Pieces that may show parameters, with commas between them. -/
def AreFlat (ps : List Piece) : Prop := ∀ p ∈ ps, IsFlat p ∨ p.isMark ',' = true

theorem AreFlat.any_eq_false {f : Piece → Bool} (h : AreFlat ps) (hf : ∀ p, IsFlat p → f p = false)
    (hcomma : ∀ p : Piece, p.isMark ',' = true → f p = false) : ps.head?.any f = false := by
  cases ps with
  | nil => rfl
  | cons p ps => exact (h p List.mem_cons_self).elim (hf p) (hcomma p)

theorem AreFlat.isGroup {c : Char} (h : AreFlat ps) (hc : '[' ≠ c) :
    ps.head?.any (·.isGroup c) = false :=
  h.any_eq_false (fun _ hp => hp.isGroup hc) fun _ hp => isGroup_of_isMark hp c

theorem AreFlat.suffix {rest : List Piece} (h : AreFlat ps) (hrest : rest <:+ ps) : AreFlat rest :=
  fun p hp => h p (hrest.subset hp)

namespace Reader

/-- A reader that cannot begin with flat pieces, or cannot go on to its end. -/
class IsBarred (r : Reader α) : Prop where
  eq_nil : ∀ {ps : List Piece}, AreFlat ps → r ps = []

/-- What a reader reads of flat pieces weighs nothing. -/
class IsLight (r : Reader α) : Prop where
  weight_nonpos : ∀ {ps : List Piece} {x : Parse α}, AreFlat ps → x ∈ r ps → x.weight ≤ 0

instance (priority := low) (r : Reader α) [h : IsBarred r] : IsLight r where
  weight_nonpos hps hx := absurd (h.eq_nil hps ▸ hx) List.not_mem_nil

/-! ### Combinations -/

section Combination

variable (r s : Reader α) (f : α → Reader β)

instance isBarred_bind_left [h : IsBarred r] : IsBarred (r >>= f) where
  eq_nil hps := bind_eq_nil (h.eq_nil hps)

instance isBarred_bind_right [hr : TakesFront r] [hf : ∀ a, IsBarred (f a)] :
    IsBarred (r >>= f) where
  eq_nil hps := bind_eq_nil_of_suffix fun a _ hrest => (hf a).eq_nil (hps.suffix hrest)

instance [hr : IsBarred r] [hs : IsBarred s] : IsBarred (r <|> s) where
  eq_nil hps := orElse_eq_nil (hr.eq_nil hps) (hs.eq_nil hps)

instance [hr : IsBarred r] : IsBarred (settle r) where
  eq_nil hps := settle_eq_nil (hr.eq_nil hps)

instance : IsBarred (fail : Reader α) where
  eq_nil _ := rfl

instance (a : α) : IsLight (pure a : Reader α) where
  weight_nonpos _ hx := by
    obtain rfl := mem_pure.mp hx
    exact Int.le_refl 0

instance isLight_bind [hr : IsLight r] [htakes : TakesFront r] [hf : ∀ a, IsLight (f a)] :
    IsLight (r >>= f) where
  weight_nonpos hps hy := by
    obtain ⟨x, hx, z, hz, rfl⟩ := mem_bind.mp hy
    have hr := hr.weight_nonpos hps hx
    have hf := (hf x.value).weight_nonpos (hps.suffix (htakes.suffix hx)) hz
    exact Int.add_nonpos hr hf

instance [hr : IsLight r] [hs : IsLight s] : IsLight (r <|> s) where
  weight_nonpos hps hx := (mem_orElse.mp hx).elim (hr.weight_nonpos hps) (hs.weight_nonpos hps)

instance [hr : IsLight r] : IsLight (settle r) where
  weight_nonpos hps hx := hr.weight_nonpos hps (mem_settle r hx)

instance [IsLight r] [TakesFront r] : IsLight (optional r) := by
  unfold optional
  infer_instance

instance (c : Prop) [Decidable c] [hr : IsLight r] [hs : IsLight s] :
    IsLight (if c then r else s) := by
  split
  · exact hr
  · exact hs

end Combination

/-! ### Pieces -/

section Pieces

variable {c : Char} {words : List Text}

instance (f : Piece → Option α) : IsLight (piece f) where
  weight_nonpos {ps x} _ hx := by
    cases ps with
    | nil => exact absurd hx List.not_mem_nil
    | cons p ps =>
      obtain ⟨a, -, rfl⟩ := List.mem_map.mp hx
      exact Int.le_refl 0

instance (f : Piece → Bool) : IsLight (satisfying f) := by unfold satisfying; infer_instance
instance (c : Char) : IsLight (mark c) := by unfold mark; infer_instance
instance (words : List Text) : IsLight (word words) := by unfold word; infer_instance
instance (reserved : List Text) : IsLight (name reserved) := by unfold name; infer_instance

instance (f : List Piece → Bool) : IsLight (check f) where
  weight_nonpos _ hx := by
    unfold check at hx
    split at hx
    · exact Int.le_of_eq (congrArg Parse.weight (List.mem_singleton.mp hx))
    · exact absurd hx List.not_mem_nil

instance (f : List Piece → List Piece) : IsLight (skip f) where
  weight_nonpos _ hx := Int.le_of_eq (congrArg Parse.weight (List.mem_singleton.mp hx))

theorem isBarred_mark (hstar : '*' ≠ c) (hcomma : ',' ≠ c) : IsBarred (mark c) where
  eq_nil hps := mark_eq_nil (hps.any_eq_false (fun _ hp => hp.isMark hstar)
    fun _ hp => isMark_of_isMark hp hcomma)

theorem isBarred_symbol {cs : Text} (hcs : cs.head?.any (fun c => c != '*' && c != ',') = true) :
    IsBarred (symbol cs) where
  eq_nil hps := by
    cases cs with
    | nil => cases hcs
    | cons c cs =>
      have hc : (c != '*' && c != ',') = true := hcs
      rw [Bool.and_eq_true, bne_iff_ne, bne_iff_ne] at hc
      exact symbol_eq_nil (hps.any_eq_false (fun _ hp => hp.isMark hc.1.symm)
        fun _ hp => isMark_of_isMark hp hc.2.symm)

theorem isBarred_word (words : List Text) (hwords : words ⊆ operatorWords) :
    IsBarred (word words) where
  eq_nil hps := word_eq_nil (hps.any_eq_false (fun _ hp => hp.isOneOf hwords)
    fun _ hp => isOneOf_of_isMark hp words)

instance (f : Readings → Option (Weighted α)) : IsBarred (group '(' f) where
  eq_nil hps := group_eq_nil (hps.isGroup (by decide))

instance (f : Readings → Option (Weighted α)) : IsBarred (group '{' f) where
  eq_nil hps := group_eq_nil (hps.isGroup (by decide))

instance (f : List Piece → Bool) : IsBarred (groupOf '(' f) where
  eq_nil hps := groupOf_eq_nil (hps.isGroup (by decide))

instance : IsBarred block where
  eq_nil hps := block_eq_nil (hps.isGroup (by decide))

instance : IsLight (group '[' (·.subscript)) where
  weight_nonpos {ps x} hps hx := by
    cases ps with
    | nil => exact absurd hx List.not_mem_nil
    | cons p ps =>
      rw [group] at hx
      split at hx
      · next hbracket =>
        obtain ⟨w, hw, rfl⟩ := List.mem_map.mp hx
        -- Of flat pieces only the size of an array is such a group.
        rcases hps p List.mem_cons_self with (hp | hp | ⟨-, hsubscript⟩) | hp
        · rw [isGroup_of_word? hp] at hbracket
          cases hbracket
        · rw [isGroup_of_isMark hp] at hbracket
          cases hbracket
        · rw [hsubscript, Option.toList_some, List.mem_singleton] at hw
          exact Int.le_of_eq (congrArg Weighted.weight hw)
        · rw [isGroup_of_isMark hp] at hbracket
          cases hbracket
      · exact absurd hx List.not_mem_nil

end Pieces

/-! ### Rows -/

theorem weight_nonpos_of_allFrom {entry : Reader α} [hentry : IsLight entry] {n : Nat}
    {xs : List (Parse (Row α))} {w : Weighted (Row α)}
    (hxs : ∀ x ∈ xs, x.weight ≤ 0 ∧ AreFlat x.rest) (h : allFrom entry n xs = some w) :
    w.weight ≤ 0 := by
  induction n generalizing xs with
  | zero => cases h
  | succ n ih =>
    cases xs with
    | nil => cases h
    | cons x xs =>
      obtain ⟨hx, hxs⟩ := List.forall_mem_cons.mp hxs
      rw [allFrom] at h
      split at h
      · cases h
        exact hx.1
      · refine ih (fun y hy => ?_) h
        rcases mem_absorb hy with hy | hy
        · exact hxs y hy
        · rw [extend_eq] at hy
          obtain ⟨z, hz, hgrow⟩ := List.mem_filterMap.mp hy
          have hweight := hentry.weight_nonpos hx.2 hz
          unfold grow? at hgrow
          split at hgrow
          · cases hgrow
          · cases hgrow
            exact ⟨Int.add_nonpos hx.1 hweight, hx.2.suffix (List.dropWhile_suffix _)⟩

/-- What is read of flat pieces as a list weighs nothing. -/
theorem weight_nonpos_of_list {trailing : Bool} {r : Reader α} [IsLight r] [TakesFront r]
    {w : Weighted (List α)} (hps : AreFlat ps) (h : list trailing r ps = some w) :
    w.weight ≤ 0 := by
  by_cases hnil : ps = []
  · rw [list, if_pos (by simp [hnil])] at h
    cases h
    exact Int.le_refl 0
  · have hentry : IsLight (listEntry trailing r) := by
      unfold listEntry
      infer_instance
    rw [list_of_ne_nil trailing hnil] at h
    obtain ⟨row, hrow, rfl⟩ := Option.map_eq_some_iff.mp h
    exact weight_nonpos_of_allFrom
      (List.forall_mem_singleton.mpr ⟨Int.le_refl 0, hps⟩) hrow

end Reader

open Reader

/-! ### Names and operands -/

/-- Template arguments begin with an angle bracket in every layer, and values are light. -/
class Phrases.AreLight (g : Phrases) : Prop where
  expression : ∀ angled, IsLight (g.expression angled)
  operand : ∀ angled, IsLight (g.operand angled)
  templateArguments : IsBarred g.templateArguments

attribute [instance] Phrases.AreLight.expression Phrases.AreLight.operand
  Phrases.AreLight.templateArguments

instance : IsBarred colons := isBarred_symbol (by with_unfolding_all decide)
instance : IsBarred (symbol "...") := isBarred_symbol (by with_unfolding_all decide)
instance : IsBarred (symbol "++") := isBarred_symbol (by with_unfolding_all decide)
instance : IsBarred (symbol "--") := isBarred_symbol (by with_unfolding_all decide)
instance : IsBarred (symbol "->") := isBarred_symbol (by with_unfolding_all decide)
instance : IsBarred (symbol ".*") := isBarred_symbol (by with_unfolding_all decide)

instance : IsLight notAScope := by unfold notAScope; infer_instance

instance : IsBarred typeOfOperand := by
  have := isBarred_word ["decltype"] (by decide +kernel)
  unfold typeOfOperand
  infer_instance

section Phrases

variable (g : Phrases)

instance : IsBarred (announcedTemplate g) := by
  have := isBarred_word ["template"] (by decide +kernel)
  unfold announcedTemplate
  infer_instance

namespace Expression

instance : IsLight number := by unfold number; infer_instance
instance : IsLight character := by unfold character; infer_instance
instance : IsLight texts := by unfold texts; infer_instance

instance : IsBarred assembly := by
  have := isBarred_word Keyword.assembly (by decide +kernel)
  unfold assembly
  infer_instance

instance : IsBarred (creation g) := by
  have := isBarred_word ["new"] (by decide +kernel)
  unfold creation
  infer_instance

instance : IsBarred (deletion g) := by
  have := isBarred_word ["delete"] (by decide +kernel)
  unfold deletion
  infer_instance

instance : IsBarred (choice g) := by
  have := isBarred_word ["_Generic"] (by decide +kernel)
  unfold choice
  infer_instance

instance : IsBarred (Expression.measure g) := by
  have := isBarred_word ["sizeof"] (by decide +kernel)
  unfold Expression.measure
  infer_instance

end Expression

variable [g.TakeFront]

instance : IsBarred (Expression.lambda g) := by unfold Expression.lambda; infer_instance

instance : IsLight (suffix g) := by
  have := isBarred_mark (c := '.') (by decide) (by decide)
  unfold suffix
  infer_instance

theorem isLight_suffixes (n : Nat) (f : Form) : IsLight (suffixes g n f) := by
  induction n generalizing f with
  | zero => exact inferInstanceAs (IsLight (pure f))
  | succ n ih =>
    unfold suffixes
    infer_instance

/-! ### Expressions -/

variable [g.AreLight]

instance (reserved : List Text) (last : Reader Unit) [TakesFront last] :
    IsLight (qualifiedName g reserved last) := by
  unfold qualifiedName
  infer_instance

namespace Expression

instance : IsLight (named g) := by unfold named; infer_instance
instance : IsLight (primary g) := by unfold primary; infer_instance

instance (angled : Bool) : IsLight (operand g angled) := by
  have hreference := isBarred_mark (c := '&') (by decide) (by decide)
  have hminus := isBarred_mark (c := '-') (by decide) (by decide)
  unfold operand
  obtain ⟨behind, hbehind⟩ : ∃ behind : Form → Reader Form,
    (fun f ps => suffixes g ps.length f ps) = behind := ⟨_, rfl⟩
  have hlight : ∀ f, IsLight (behind f) := fun f =>
    ⟨fun hps h => (isLight_suffixes g _ f).weight_nonpos hps (hbehind ▸ h)⟩
  rw [hbehind]
  infer_instance

instance (angled : Bool) : IsLight (joint angled) where
  weight_nonpos _ hx := by
    obtain ⟨found, -, rfl⟩ := List.mem_map.mp hx
    exact Int.le_refl 0

instance (angled : Bool) (f : Form) : IsLight (continued g angled f) := by
  have hcolon := isBarred_mark (c := ':') (by decide) (by decide)
  unfold continued
  refine @isLight_bind _ _ _ _ _ _ fun j => ?_
  cases j <;> infer_instance

end Expression

instance (angled : Bool) : IsLight (expression g angled) := by unfold expression; infer_instance

instance : IsBarred (Header.templateArguments g) := by
  have := isBarred_mark (c := '<') (by decide) (by decide)
  unfold Header.templateArguments
  infer_instance

instance : Phrases.AreLight g.next where
  expression angled := inferInstanceAs (IsLight (settle (Header.expression g angled)))
  operand angled := inferInstanceAs (IsLight (settle (Expression.operand g angled)))
  templateArguments := inferInstanceAs (IsBarred (settle (Header.templateArguments g)))

instance : IsLight (argument g) := by unfold argument; infer_instance
instance : TakesFront (initialValue g) := by unfold initialValue; infer_instance
instance : IsLight (initialValue g) := by unfold initialValue; infer_instance

end Phrases

instance : Phrases.none.AreLight where
  expression _ := inferInstanceAs (IsLight fail)
  operand _ := inferInstanceAs (IsLight fail)
  templateArguments := inferInstanceAs (IsBarred fail)

instance (depth : Nat) : (Phrases.upTo depth).AreLight := by
  induction depth with
  | zero => exact inferInstanceAs Phrases.none.AreLight
  | succ n ih =>
    rw [Phrases.upTo_succ]
    infer_instance

/-- **Initial values** that could be parameters weigh nothing. -/
theorem weight_nonpos_of_values {depth : Nat} {ps : List Piece} {w : Weighted Unit}
    (hps : AreFlat ps)
    (h : forget (list false (initialValue (Phrases.upTo depth)) ps) = some w) : w.weight ≤ 0 := by
  obtain ⟨v, hv, rfl⟩ := Option.map_eq_some_iff.mp h
  exact weight_nonpos_of_list hps hv

end Bindery.Header
