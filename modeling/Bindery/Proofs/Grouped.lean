import Bindery.Proofs.Pieces

/-!
# Tokens and the pieces that they make up

Tokens are grouped as the pieces that their brackets show: a token that is no bracket is a piece by
itself, and a pair of brackets with grouped tokens inside is one piece. So pieces can be told part
by part, from the number of tokens before each part.
-/

namespace Bindery.Header

/-- Whether a token is a piece wherever it stands: no bracket and no directive line. -/
def Token.isLoose (t : Token) : Bool := !Grouping.opens t && !Grouping.closes t && !t.isDirective

/-- A token opens a group that another one closes. -/
structure Token.Encloses (opening closing : Token) : Prop where
  /-- The one opens a group. -/
  opens : Grouping.opens opening = true
  /-- The other one opens none. -/
  not_opens : Grouping.opens closing = false
  /-- It closes the group. -/
  closes : ∀ o : OpenGroup, o.opening = opening → o.closesWith closing = true

/-- A pair of brackets as a piece, from the number of tokens before it, the tokens between the
brackets and the pieces that they make up. -/
def Piece.enclosed (n : Nat) (opening closing : Token) (inside : List Token) (ips : List Piece) :
    Piece :=
  .group n opening ips (opening :: (inside ++ [closing]))
    (readingsOf opening ips (inside.length + 2))

@[simp] theorem Piece.place_enclosed (n : Nat) (opening closing : Token) (inside : List Token)
    (ips : List Piece) : (Piece.enclosed n opening closing inside ips).place = n := rfl

/-- Some tokens, from the number of tokens before them, are grouped as some pieces. -/
inductive AreGrouped : Nat → List Token → List Piece → Prop
  /-- No token makes up no piece. -/
  | nil {n : Nat} : AreGrouped n [] []
  /-- A token that is no bracket is a piece. -/
  | token {n : Nat} {t : Token} {ts : List Token} {ps : List Piece} :
      t.isLoose = true → AreGrouped (n + 1) ts ps → AreGrouped n (t :: ts) (.token n t :: ps)
  /-- A pair of brackets is one with what stands between them. -/
  | group {n : Nat} {opening closing : Token} {inside ts : List Token} {ips ps : List Piece} :
      opening.Encloses closing → AreGrouped (n + 1) inside ips →
      AreGrouped (n + inside.length + 2) ts ps →
      AreGrouped n (opening :: (inside ++ closing :: ts))
        (.enclosed n opening closing inside ips :: ps)

namespace Grouping

/-- A state after some tokens more, which make up some pieces. -/
def add (s : Grouping) (length : Nat) (ps : List Piece) : Grouping :=
  match s.opened with
  | [] => { s with count := s.count + length, outside := ps.reverse ++ s.outside }
  | o :: os =>
    { s with
      count := s.count + length
      opened := { o with
        inside := ps.reverse ++ o.inside
        source := (Piece.flatten ps).reverse ++ o.source } :: os }

variable {s : Grouping} {t : Token}

theorem add_zero_nil (s : Grouping) : s.add 0 [] = s := by
  obtain ⟨count, opened, outside⟩ := s
  cases opened <;> rfl

theorem add_add (s : Grouping) (m k : Nat) (ps qs : List Piece) :
    (s.add m ps).add k qs = s.add (m + k) (ps ++ qs) := by
  obtain ⟨count, opened, outside⟩ := s
  cases opened <;> simp [add, Nat.add_assoc]

theorem count_add (s : Grouping) (m : Nat) (ps : List Piece) :
    (s.add m ps).count = s.count + m := by
  rw [add]
  cases s.opened <;> rfl

theorem add_singleton (s : Grouping) (m : Nat) (p : Piece) :
    s.add m [p] = { s.push p with count := s.count + m } := by
  obtain ⟨count, opened, outside⟩ := s
  cases opened <;> simp [add, push, OpenGroup.push]

theorem step?_of_isLoose (s : Grouping) (ht : t.isLoose = true) :
    s.step? t = some (s.add 1 [.token s.count t]) := by
  rw [Token.isLoose, Bool.and_eq_true, Bool.and_eq_true, Bool.not_eq_true', Bool.not_eq_true',
    Bool.not_eq_true'] at ht
  obtain ⟨⟨hopens, hcloses⟩, hdirective⟩ := ht
  have hno : ∀ o : OpenGroup, o.closesWith t = false := by
    intro o
    rw [closes, Bool.or_eq_false_iff, Bool.or_eq_false_iff] at hcloses
    rw [OpenGroup.closesWith, hcloses.1.1, hcloses.1.2, hcloses.2, hdirective]
    simp
  rw [add_singleton, step?, accept?, hopens]
  cases s.opened <;> simp [hno, hcloses]

/-- An open group takes the pieces inside, and its closing bracket makes it one piece. -/
theorem foldlM_enclosed {opening closing : Token} {inside : List Token} {ips : List Piece}
    (h : opening.Encloses closing) (hips : Piece.flatten ips = inside) (s : Grouping) :
    (Grouping.add { s with
        count := s.count + 1
        opened := { place := s.count, opening := opening, source := [opening] } :: s.opened }
      inside.length ips).step? closing =
      some (s.add (inside.length + 2) [.enclosed s.count opening closing inside ips]) := by
  obtain ⟨count, opened, outside⟩ := s
  rw [add_singleton, add, step?, accept?, h.not_opens]
  cases opened <;>
    simp [h.closes, OpenGroup.close, OpenGroup.push, push, Piece.enclosed, hips, Nat.add_assoc,
      Nat.add_comm 1]

end Grouping

namespace AreGrouped

open Grouping

variable {n : Nat} {ts us : List Token} {ps qs : List Piece}

theorem flatten_eq (h : AreGrouped n ts ps) : Piece.flatten ps = ts := by
  induction h with
  | nil => rfl
  | token _ _ ih => rw [Piece.flatten_cons, ih]; rfl
  | group _ _ _ _ ih =>
    rw [Piece.flatten_cons, ih]
    simp [Piece.enclosed, Piece.tokens]

/-- **Grouping** adds the pieces that tokens make up. -/
theorem foldlM_step (h : AreGrouped n ts ps) (s : Grouping) (hs : s.count = n) :
    ts.foldlM step? s = some (s.add ts.length ps) := by
  induction h generalizing s with
  | nil => exact congrArg some (add_zero_nil s).symm
  | token ht _ ih =>
    subst hs
    rw [List.foldlM_cons, step?_of_isLoose s ht, Option.bind_eq_bind, Option.bind_some,
      ih _ (count_add s _ _), add_add, Nat.add_comm]
    rfl
  | @group n opening closing inside ts ips ps henclosed hinside hbehind ih ih' =>
    subst hs
    have hopen : s.step? opening = some { s with
        count := s.count + 1
        opened := { place := s.count, opening := opening, source := [opening] } :: s.opened } := by
      rw [step?, accept?, henclosed.opens]
      rfl
    rw [List.foldlM_cons, hopen, Option.bind_eq_bind, Option.bind_some, List.foldlM_append,
      ih _ rfl, Option.bind_eq_bind, Option.bind_some, List.foldlM_cons,
      foldlM_enclosed henclosed hinside.flatten_eq, Option.bind_eq_bind, Option.bind_some,
      ih' _ (count_add s _ _), add_add]
    congr 2
    simp
    omega

/-- Pieces are those of their tokens. -/
theorem ofTokens?_eq (h : AreGrouped 0 ts ps) : Piece.ofTokens? ts = some ps := by
  rw [Piece.ofTokens?, h.foldlM_step {} rfl]
  simp [add]

theorem append (h : AreGrouped n ts ps) (h' : AreGrouped (n + ts.length) us qs) :
    AreGrouped n (ts ++ us) (ps ++ qs) := by
  induction h with
  | nil => exact h'
  | token ht _ ih => exact .token ht (ih (by rwa [Nat.add_assoc, Nat.add_comm 1]))
  | @group n opening closing inside ts ips ps henclosed hinside _ _ ih =>
    rw [List.cons_append, List.append_assoc, List.cons_append]
    refine .group henclosed hinside (ih ?_)
    have hcount : n + inside.length + 2 + ts.length =
        n + (opening :: (inside ++ closing :: ts)).length := by
      simp
      omega
    rwa [hcount]

theorem le_place (h : AreGrouped n ts ps) : ∀ p ∈ ps, n ≤ p.place := by
  induction h with
  | nil => simp
  | token _ _ ih =>
    exact List.forall_mem_cons.mpr ⟨Nat.le_refl _, fun p hp => Nat.le_of_succ_le (ih p hp)⟩
  | group _ _ _ _ ih =>
    exact List.forall_mem_cons.mpr ⟨Nat.le_refl _, fun p hp => by have := ih p hp; omega⟩

theorem areOrdered (h : AreGrouped n ts ps) : Piece.AreOrdered ps := by
  have hcons : ∀ {p : Piece} {ps : List Piece}, p.tokens ≠ [] → (∀ q ∈ ps, p.place < q.place) →
      Piece.AreOrdered ps → Piece.AreOrdered (p :: ps) := fun hp hplaces h =>
    ⟨List.forall_mem_cons.mpr ⟨hp, h.tokens⟩, List.pairwise_cons.mpr ⟨hplaces, h.places⟩⟩
  induction h with
  | nil => exact ⟨by simp, List.Pairwise.nil⟩
  | token _ hbehind ih => exact hcons (List.cons_ne_nil _ _) hbehind.le_place ih
  | group _ _ hbehind _ ih =>
    refine hcons (List.cons_ne_nil _ _) (fun q hq => ?_) ih
    have hle := hbehind.le_place q hq
    exact Nat.lt_of_lt_of_le (by rw [Piece.place_enclosed]; omega) hle

end AreGrouped

namespace Piece

/-- Tokens as pieces of their own, from the number of tokens before them. -/
def singles (n : Nat) : List Token → List Piece
  | [] => []
  | t :: ts => .token n t :: singles (n + 1) ts

end Piece

theorem areGrouped_singles {ts : List Token} (h : ∀ t ∈ ts, t.isLoose = true) (n : Nat) :
    AreGrouped n ts (Piece.singles n ts) := by
  induction ts generalizing n with
  | nil => exact .nil
  | cons t ts ih =>
    rw [List.forall_mem_cons] at h
    exact .token h.1 (ih h.2 (n + 1))

end Bindery.Header
