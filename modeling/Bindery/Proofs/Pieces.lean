import Bindery.Header.Group
import Mathlib.Data.List.Flatten
import Mathlib.Tactic.SplitIfs

/-!
# Pieces of a token list

Grouping loses no token and moves none: the pieces of a token list have its tokens in order. Each
piece has a token at least, and its place is behind the places of the pieces before it.
-/

namespace Bindery.Header

namespace Piece

@[simp] theorem flatten_nil : flatten [] = [] := rfl

@[simp] theorem flatten_cons (p : Piece) (ps : List Piece) :
    flatten (p :: ps) = p.tokens ++ flatten ps := rfl

@[simp] theorem flatten_append (ps qs : List Piece) :
    flatten (ps ++ qs) = flatten ps ++ flatten qs :=
  List.flatMap_append

/-- Pieces that have tokens and stand one behind the other. -/
structure AreOrdered (ps : List Piece) : Prop where
  /-- Each has a token. -/
  tokens : ∀ p ∈ ps, p.tokens ≠ []
  /-- Each stands behind those before it. -/
  places : ps.Pairwise fun p q => p.place < q.place

variable {ps qs : List Piece}

theorem AreOrdered.sublist (h : AreOrdered ps) (hqs : qs.Sublist ps) : AreOrdered qs :=
  ⟨fun p hp => h.tokens p (hqs.subset hp), h.places.sublist hqs⟩

/-- There are as many tokens as pieces, or more. -/
theorem AreOrdered.length_le (h : AreOrdered ps) : ps.length ≤ (flatten ps).length := by
  induction ps with
  | nil => exact Nat.zero_le _
  | cons p ps ih =>
    have hp := List.length_pos_iff.mpr (h.tokens p List.mem_cons_self)
    have hps := ih (h.sublist (List.sublist_cons_self p ps))
    rw [flatten_cons, List.length_append, List.length_cons]
    omega

end Piece

namespace Grouping

open Piece

variable {s s' : Grouping} {t : Token} {us : List Token}

/-- The tokens taken so far, in order. -/
def held (s : Grouping) : List Token :=
  flatten s.outside.reverse ++ s.opened.reverse.flatMap fun o => o.source.reverse

/-- The places of the groups that are open and of the pieces outside, the last one first. -/
def places (s : Grouping) : List Nat := s.opened.map (·.place) ++ s.outside.map Piece.place

/-- A state in which some tokens have been taken and nothing has been lost. -/
structure Holds (s : Grouping) (us : List Token) : Prop where
  /-- The tokens are those of the pieces outside and of the groups that are open. -/
  tokens : s.held = us
  /-- Each place is behind those before it. -/
  ordered : s.places.Pairwise (· > ·)
  /-- All places are behind the tokens that follow. -/
  lt_count : ∀ n ∈ s.places, n < s.count
  /-- A group that is open has a token. -/
  opened : ∀ o ∈ s.opened, o.source ≠ []
  /-- So has a piece outside. -/
  outside : ∀ p ∈ s.outside, p.tokens ≠ []

/-- A piece adds its tokens. -/
theorem held_push (s : Grouping) (p : Piece) : (s.push p).held = s.held ++ p.tokens := by
  unfold push held
  cases s.opened with
  | nil => simp
  | cons o os => simp [OpenGroup.push]

/-- A piece adds its place where no group is open, and none where one is. -/
theorem places_push (s : Grouping) (p : Piece) :
    (s.push p).places = if s.opened.isEmpty then p.place :: s.places else s.places := by
  unfold push places
  cases s.opened with
  | nil => rfl
  | cons o os => rfl

/-- A piece behind all places keeps them in order. -/
theorem pairwise_places_push {p : Piece} (h : s.places.Pairwise (· > ·))
    (hp : ∀ n ∈ s.places, n < p.place) : (s.push p).places.Pairwise (· > ·) := by
  rw [places_push]
  split
  · exact List.pairwise_cons.mpr ⟨hp, h⟩
  · exact h

theorem mem_places_push {p : Piece} {n : Nat} (h : n ∈ (s.push p).places) :
    n = p.place ∨ n ∈ s.places := by
  rw [places_push] at h
  split at h
  · exact List.mem_cons.mp h
  · exact Or.inr h

theorem opened_push (p : Piece) (h : ∀ o ∈ s.opened, o.source ≠ []) :
    ∀ o ∈ (s.push p).opened, o.source ≠ [] := by
  unfold push
  split
  · exact h
  · next o os hopened =>
    rw [hopened] at h
    obtain ⟨ho, hos⟩ := List.forall_mem_cons.mp h
    exact List.forall_mem_cons.mpr ⟨List.append_ne_nil_of_right_ne_nil _ ho, hos⟩

theorem outside_push {p : Piece} (hp : p.tokens ≠ []) (h : ∀ q ∈ s.outside, q.tokens ≠ []) :
    ∀ q ∈ (s.push p).outside, q.tokens ≠ [] := by
  unfold push
  split
  · exact List.forall_mem_cons.mpr ⟨hp, h⟩
  · exact h

/-- A token that is a piece of its own. -/
theorem Holds.push_token (h : s.Holds us) (t : Token) :
    Holds { s.push (.token s.count t) with count := s.count + 1 } (us ++ [t]) where
  tokens := by
    have hheld := held_push s (.token s.count t)
    rw [h.tokens] at hheld
    exact hheld
  ordered := pairwise_places_push h.ordered h.lt_count
  lt_count n hn := by
    rcases mem_places_push hn with rfl | hn
    · exact Nat.lt_succ_self s.count
    · exact Nat.lt_succ_of_lt (h.lt_count n hn)
  opened := opened_push _ h.opened
  outside := outside_push (List.cons_ne_nil t []) h.outside

/-- A token that opens a group. -/
theorem Holds.open_ (h : s.Holds us) (t : Token) :
    Holds { s with
      count := s.count + 1
      opened := { place := s.count, opening := t, source := [t] } :: s.opened } (us ++ [t]) where
  tokens := by
    rw [← h.tokens]
    simp [held]
  ordered := List.pairwise_cons.mpr ⟨fun n hn => h.lt_count n hn, h.ordered⟩
  lt_count := List.forall_mem_cons.mpr ⟨Nat.lt_succ_self _, fun n hn =>
    Nat.lt_succ_of_lt (h.lt_count n hn)⟩
  opened := List.forall_mem_cons.mpr ⟨List.cons_ne_nil t [], h.opened⟩
  outside := h.outside

/-- A token that closes the innermost group, which then is a piece where it was opened. -/
theorem Holds.close {o : OpenGroup} {os : List OpenGroup} (h : s.Holds us)
    (hopened : s.opened = o :: os) (t : Token) :
    Holds { push { s with opened := os } (o.close t) with count := s.count + 1 } (us ++ [t]) := by
  obtain ⟨htokens, hordered, hlt, hsources, houtside⟩ := h
  rw [places, hopened] at hordered hlt
  rw [hopened] at hsources
  obtain ⟨hplaces, hothers⟩ := List.pairwise_cons.mp hordered
  refine ⟨(held_push { s with opened := os } (o.close t)).trans ?_,
    pairwise_places_push (s := { s with opened := os }) hothers hplaces, fun n hn => ?_,
    opened_push (s := { s with opened := os }) _ (List.forall_mem_cons.mp hsources).2,
    outside_push (s := { s with opened := os }) (by simp [OpenGroup.close, Piece.tokens]) houtside⟩
  · rw [← htokens]
    simp [held, hopened, OpenGroup.close, Piece.tokens]
  · refine Nat.lt_succ_of_lt (hlt n ?_)
    exact List.mem_cons.mpr (mem_places_push (s := { s with opened := os }) hn)

/-- **A token more.** What a step takes is the token. -/
theorem Holds.step (h : s.Holds us) (hstep : s.step? t = some s') : s'.Holds (us ++ [t]) := by
  obtain ⟨s'', haccept, rfl⟩ := Option.map_eq_some_iff.mp hstep
  unfold accept? at haccept
  split at haccept
  · cases haccept
    exact h.open_ t
  · split at haccept
    · next o os hopened =>
      split_ifs at haccept
      · cases haccept
        exact h.close hopened t
      · cases haccept
        exact h.push_token t
    · split_ifs at haccept
      cases haccept
      exact h.push_token t

/-- What a run takes is its tokens. -/
theorem Holds.run {ts : List Token} (h : s.Holds us) (hrun : ts.foldlM step? s = some s') :
    s'.Holds (us ++ ts) := by
  induction ts generalizing s us with
  | nil =>
    cases hrun
    rwa [List.append_nil]
  | cons t ts ih =>
    rw [List.foldlM_cons] at hrun
    obtain ⟨s'', hstep, hrest⟩ := Option.bind_eq_some_iff.mp hrun
    rw [List.append_cons]
    exact ih (h.step hstep) hrest

theorem holds_empty : Holds {} [] where
  tokens := rfl
  ordered := List.Pairwise.nil
  lt_count := fun _ hn => absurd hn List.not_mem_nil
  opened := fun _ ho => absurd ho List.not_mem_nil
  outside := fun _ hp => absurd hp List.not_mem_nil

end Grouping

namespace Piece

variable {ts : List Token} {ps : List Piece}

theorem exists_holds_of_ofTokens? (h : ofTokens? ts = some ps) :
    ∃ s : Grouping, s.Holds ts ∧ s.opened = [] ∧ ps = s.outside.reverse := by
  obtain ⟨s, hrun, h⟩ := Option.bind_eq_some_iff.mp h
  split at h
  · next hopened =>
    cases h
    exact ⟨s, Grouping.holds_empty.run hrun, List.isEmpty_iff.mp hopened, rfl⟩
  · cases h

/-- **The tokens of the pieces** of some tokens are these tokens. -/
theorem flatten_of_ofTokens? (h : ofTokens? ts = some ps) : flatten ps = ts := by
  obtain ⟨s, hholds, hopened, rfl⟩ := exists_holds_of_ofTokens? h
  have htokens := hholds.tokens
  rwa [Grouping.held, hopened, List.reverse_nil, List.flatMap_nil, List.append_nil] at htokens

/-- The pieces of some tokens are in their order. -/
theorem areOrdered_of_ofTokens? (h : ofTokens? ts = some ps) : AreOrdered ps := by
  obtain ⟨s, hholds, hopened, rfl⟩ := exists_holds_of_ofTokens? h
  refine ⟨fun p hp => hholds.outside p (List.mem_reverse.mp hp), ?_⟩
  have hplaces := hholds.ordered
  rw [Grouping.places, hopened, List.map_nil, List.nil_append, List.pairwise_map] at hplaces
  exact List.pairwise_reverse.mpr hplaces

end Piece

end Bindery.Header
