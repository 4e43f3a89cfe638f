import Bindery.Header.Modifier
import Bindery.Proofs.Frontier

/-!
# Readers take from the front

A reader that is put together from others reads where they read. Each takes pieces from the front
and leaves the end of what it was given; most take one piece at least. Both are classes, so that
what holds of the parts of a phrase is found for the phrase by the way it is written.
-/

namespace Bindery.Header

namespace Reader

variable {α β : Type}

/-- A reader takes pieces from the front only: it leaves an end of what it is given. -/
class TakesFront (r : Reader α) : Prop where
  suffix : ∀ {ps : List Piece} {x : Parse α}, x ∈ r ps → x.rest <:+ ps

/-- A reader takes at least one piece. -/
class TakesPiece (r : Reader α) : Prop where
  length_lt : ∀ {ps : List Piece} {x : Parse α}, x ∈ r ps → x.rest.length < ps.length

/-- A function takes pieces from the front only. -/
class DropsFront (f : List Piece → List Piece) : Prop where
  suffix : ∀ ps, f ps <:+ ps

/-- A function takes pieces from the front only, if it takes any. -/
class MayDropFront (f : List Piece → Option (List Piece)) : Prop where
  suffix : ∀ {ps rest : List Piece}, f ps = some rest → rest <:+ ps

/-! ### Combinations -/

theorem mem_bind {r : Reader α} {f : α → Reader β} {ps : List Piece} {y : Parse β} :
    y ∈ (r >>= f) ps ↔ ∃ x ∈ r ps, ∃ z ∈ f x.value x.rest,
      y = { z with weight := x.weight + z.weight } := by
  change y ∈ (r ps).flatMap _ ↔ _
  simp only [List.mem_flatMap, List.mem_map, eq_comm]

theorem mem_orElse {r s : Reader α} {ps : List Piece} {x : Parse α} :
    x ∈ (r <|> s) ps ↔ x ∈ r ps ∨ x ∈ s ps :=
  List.mem_append

theorem mem_pure {a : α} {ps : List Piece} {x : Parse α} :
    x ∈ (pure a : Reader α) ps ↔ x = ⟨a, 0, ps⟩ :=
  List.mem_singleton

instance (a : α) : TakesFront (pure a : Reader α) where
  suffix h := by
    obtain rfl := mem_pure.mp h
    exact List.suffix_rfl

instance : TakesFront (fail : Reader α) where
  suffix h := absurd h List.not_mem_nil

instance : TakesPiece (fail : Reader α) where
  length_lt h := absurd h List.not_mem_nil

section Combination

variable (r s : Reader α) (f : α → Reader β)

instance takesFront_bind [hr : TakesFront r] [hf : ∀ a, TakesFront (f a)] :
    TakesFront (r >>= f) where
  suffix h := by
    obtain ⟨x, hx, z, hz, rfl⟩ := mem_bind.mp h
    exact ((hf _).suffix hz).trans (hr.suffix hx)

instance takesPiece_bind_left [hr : TakesPiece r] [hf : ∀ a, TakesFront (f a)] :
    TakesPiece (r >>= f) where
  length_lt h := by
    obtain ⟨x, hx, z, hz, rfl⟩ := mem_bind.mp h
    exact Nat.lt_of_le_of_lt ((hf _).suffix hz).length_le (hr.length_lt hx)

instance takesPiece_bind_right [hr : TakesFront r] [hf : ∀ a, TakesPiece (f a)] :
    TakesPiece (r >>= f) where
  length_lt h := by
    obtain ⟨x, hx, z, hz, rfl⟩ := mem_bind.mp h
    have hlt : z.rest.length < x.rest.length := (hf _).length_lt hz
    exact Nat.lt_of_lt_of_le hlt (hr.suffix hx).length_le

instance [hr : TakesFront r] [hs : TakesFront s] : TakesFront (r <|> s) where
  suffix h := (mem_orElse.mp h).elim hr.suffix hs.suffix

instance [hr : TakesPiece r] [hs : TakesPiece s] : TakesPiece (r <|> s) where
  length_lt h := (mem_orElse.mp h).elim hr.length_lt hs.length_lt

instance (c : Prop) [Decidable c] [hr : TakesFront r] [hs : TakesFront s] :
    TakesFront (if c then r else s) := by
  split
  · exact hr
  · exact hs

instance [TakesFront r] : TakesFront (optional r) := by
  unfold optional
  infer_instance

theorem settle_eq_absorb (ps : List Piece) : settle r ps = absorb [] (r ps) := rfl

theorem mem_settle {ps : List Piece} {x : Parse α} (h : x ∈ settle r ps) : x ∈ r ps :=
  (mem_absorb h).resolve_left List.not_mem_nil

instance [hr : TakesFront r] : TakesFront (settle r) where
  suffix h := hr.suffix (mem_settle r h)

instance [hr : TakesPiece r] : TakesPiece (settle r) where
  length_lt h := hr.length_lt (mem_settle r h)

instance [hr : TakesFront r] : TakesFront (withSource r) where
  suffix h := by
    obtain ⟨x, hx, rfl⟩ := List.mem_map.mp h
    exact hr.suffix hx

instance [hr : TakesPiece r] : TakesPiece (withSource r) where
  length_lt h := by
    obtain ⟨x, hx, rfl⟩ := List.mem_map.mp h
    exact hr.length_lt hx

end Combination

/-! ### Pieces -/

theorem mem_piece {f : Piece → Option α} {ps : List Piece} {x : Parse α} (h : x ∈ piece f ps) :
    ∃ p, ps = p :: x.rest := by
  cases ps with
  | nil => exact absurd h List.not_mem_nil
  | cons p ps =>
    obtain ⟨a, _, rfl⟩ := List.mem_map.mp h
    exact ⟨p, rfl⟩

/-- What takes the first piece takes from the front. -/
theorem takesFront_of_forall {r : Reader α} (h : ∀ ps, ∀ x ∈ r ps, ∃ p, ps = p :: x.rest) :
    TakesFront r where
  suffix hx := by
    obtain ⟨p, hp⟩ := h _ _ hx
    exact ⟨[p], hp.symm⟩

/-- What takes the first piece takes a piece. -/
theorem takesPiece_of_forall {r : Reader α} (h : ∀ ps, ∀ x ∈ r ps, ∃ p, ps = p :: x.rest) :
    TakesPiece r where
  length_lt hx := by
    obtain ⟨p, hp⟩ := h _ _ hx
    rw [hp]
    exact Nat.lt_succ_self _

instance (f : Piece → Option α) : TakesFront (piece f) :=
  takesFront_of_forall fun _ _ => mem_piece

instance (f : Piece → Option α) : TakesPiece (piece f) :=
  takesPiece_of_forall fun _ _ => mem_piece

instance (f : Piece → Bool) : TakesFront (satisfying f) := by unfold satisfying; infer_instance
instance (c : Char) : TakesFront (mark c) := by unfold mark; infer_instance
instance (c : Char) : TakesPiece (mark c) := by unfold mark; infer_instance
instance (words : List Text) : TakesFront (word words) := by unfold word; infer_instance
instance (words : List Text) : TakesPiece (word words) := by unfold word; infer_instance
instance (reserved : List Text) : TakesFront (name reserved) := by unfold name; infer_instance
instance (reserved : List Text) : TakesPiece (name reserved) := by unfold name; infer_instance
instance : TakesFront block := by unfold block; infer_instance

instance (opening : Char) (f : List Piece → Bool) : TakesFront (groupOf opening f) := by
  unfold groupOf
  infer_instance

theorem mem_group {opening : Char} {f : Readings → Option (Weighted α)} {ps : List Piece}
    {x : Parse α} (h : x ∈ group opening f ps) : ∃ p, ps = p :: x.rest := by
  cases ps with
  | nil => exact absurd h List.not_mem_nil
  | cons p ps =>
    rw [group] at h
    split at h
    · obtain ⟨w, _, rfl⟩ := List.mem_map.mp h
      exact ⟨p, rfl⟩
    · exact absurd h List.not_mem_nil

instance (opening : Char) (f : Readings → Option (Weighted α)) : TakesFront (group opening f) :=
  takesFront_of_forall fun _ _ => mem_group

/-! ### Symbols and weights -/

theorem behindSymbol_suffix {cs : Text} {ps rest : List Piece}
    (h : behindSymbol cs ps = some rest) : rest <:+ ps := by
  fun_induction behindSymbol cs ps with
  | case1 ps => exact Option.some.inj h ▸ List.suffix_rfl
  | case2 c p ps hp =>
    cases h
    exact List.suffix_cons p _
  | case3 => cases h
  | case4 c d cs p q ps _ ih => exact (ih h).trans (List.suffix_cons p _)
  | case5 => cases h
  | case6 => cases h

theorem length_lt_of_behindSymbol {c : Char} {cs : Text} {ps rest : List Piece}
    (h : behindSymbol (c :: cs) ps = some rest) : rest.length < ps.length := by
  cases ps with
  | nil => cases cs <;> cases h
  | cons p ps =>
    have hsuffix : rest <:+ ps := by
      cases cs with
      | nil =>
        rw [behindSymbol] at h
        split at h
        · exact Option.some.inj h ▸ List.suffix_rfl
        · cases h
      | cons d cs =>
        cases ps with
        | nil => cases h
        | cons q ps =>
          rw [behindSymbol] at h
          split at h
          · exact behindSymbol_suffix h
          · cases h
    exact Nat.lt_succ_of_le hsuffix.length_le

instance (cs : Text) : TakesFront (symbol cs) where
  suffix h := by
    obtain ⟨rest, hrest, rfl⟩ := List.mem_map.mp h
    exact behindSymbol_suffix (Option.mem_toList.mp hrest)

theorem takesPiece_symbol {cs : Text} (h : cs ≠ []) : TakesPiece (symbol cs) where
  length_lt hx := by
    obtain ⟨c, cs, rfl⟩ := List.exists_cons_of_ne_nil h
    obtain ⟨rest, hrest, rfl⟩ := List.mem_map.mp hx
    exact length_lt_of_behindSymbol (Option.mem_toList.mp hrest)

instance (w : Int) : TakesFront (weigh w) where
  suffix h := by
    obtain rfl := List.mem_singleton.mp h
    exact List.suffix_rfl

instance (f : List Piece → Bool) : TakesFront (check f) where
  suffix h := by
    unfold check at h
    split at h
    · obtain rfl := List.mem_singleton.mp h
      exact List.suffix_rfl
    · exact absurd h List.not_mem_nil

/-! ### Rows -/

theorem takesFront_separatedUpTo (separator : Reader Unit) (r : Reader α) [TakesFront separator]
    [TakesFront r] (n : Nat) : TakesFront (separatedUpTo separator r n) := by
  induction n with
  | zero => exact inferInstanceAs (TakesFront fail)
  | succ n ih =>
    unfold separatedUpTo
    infer_instance

instance (separator : Reader Unit) (r : Reader α) [TakesFront separator] [TakesFront r] :
    TakesFront (separated separator r) where
  suffix := (takesFront_separatedUpTo separator r _).suffix

instance (r : Reader α) [TakesFront r] : TakesFront (commas r) := by
  unfold commas
  infer_instance

/-! ### What is skipped -/

instance (f : List Piece → List Piece) [hf : DropsFront f] : TakesFront (skip f) where
  suffix h := by
    rw [List.mem_singleton.mp h]
    exact hf.suffix _

instance (f : Piece → Bool) : DropsFront fun ps => ps.dropWhile f where
  suffix _ := List.dropWhile_suffix f

instance : DropsFront fun ps => ps where
  suffix _ := List.suffix_rfl

instance (c : Prop) [Decidable c] (f f' : List Piece → List Piece) [hf : DropsFront f]
    [hf' : DropsFront f'] : DropsFront fun ps => if c then f ps else f' ps where
  suffix ps := by
    split
    · exact hf.suffix ps
    · exact hf'.suffix ps

instance (f : List Piece → Option (List Piece)) [hf : MayDropFront f] :
    DropsFront (dropOptional f) where
  suffix ps := by
    unfold dropOptional
    cases hrest : f ps with
    | none => exact List.suffix_rfl
    | some rest => exact hf.suffix hrest

theorem takeRepeatedly_suffix {take? : List Piece → Option (α × List Piece)}
    (h : ∀ {ps taken}, take? ps = some taken → taken.2 <:+ ps) (n : Nat) (ps : List Piece) :
    (takeRepeatedly take? n ps).2 <:+ ps := by
  induction n generalizing ps with
  | zero => exact List.suffix_rfl
  | succ n ih =>
    rw [takeRepeatedly]
    cases htake : take? ps with
    | none => exact List.suffix_rfl
    | some taken => exact (ih taken.2).trans (h htake)

instance (f : List Piece → Option (List Piece)) [hf : MayDropFront f] :
    DropsFront (dropAll f) where
  suffix ps := by
    refine takeRepeatedly_suffix (fun h => ?_) ps.length ps
    obtain ⟨rest, hrest, rfl⟩ := Option.map_eq_some_iff.mp h
    exact hf.suffix hrest

theorem orElse_eq_some {a b : Option α} {c : α} (h : (a <|> b) = some c) :
    a = some c ∨ b = some c := by
  cases a with
  | none => exact Or.inr h
  | some a => exact Or.inl h

instance (f f' : List Piece → Option (List Piece)) [hf : MayDropFront f] [hf' : MayDropFront f'] :
    MayDropFront fun ps => f ps <|> f' ps where
  suffix h := (orElse_eq_some h).elim hf.suffix hf'.suffix

end Reader

end Bindery.Header
