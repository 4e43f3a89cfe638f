import Bindery.Proofs.BlockReading
import Bindery.Proofs.PhraseFront
import Bindery.Proofs.Pieces

/-!
# What contents are read from

The contents of an item cover its pieces: each takes those that follow the ones taken before it, one
at least. A type specifier alone takes a piece of its own besides the semicolon behind it.
-/

namespace Bindery.Header

namespace Reader

/-! ### Rows -/

section Row

variable {α : Type} {entry : Reader α} {ps : List Piece}

/-- An entry with the pieces that it was read from, which follow other pieces. -/
def IsReadFrom (entry : Reader α) (ps : List Piece) (e : α × List Piece) : Prop :=
  ∃ rest, rest <:+ ps ∧ ∃ y ∈ entry rest,
    e = (y.value, rest.takeWhile (·.precedes y.place)) ∧ e.2 ≠ []

/-- A row that has been read from the front of some pieces, the last entry first. -/
structure Covers (entry : Reader α) (ps : List Piece) (x : Parse (Row α)) : Prop where
  /-- The pieces of the entries and the rest are all pieces. -/
  sources : (x.value.reverse.flatMap fun e => e.2) ++ x.rest = ps
  /-- Each entry has been read from its pieces. -/
  entries : ∀ e ∈ x.value, IsReadFrom entry ps e

variable {x z : Parse (Row α)}

/-- **An entry more.** -/
theorem Covers.extend (h : Covers entry ps x) (hz : z ∈ extend entry x) : Covers entry ps z := by
  rw [extend_eq] at hz
  obtain ⟨y, hy, hgrow⟩ := List.mem_filterMap.mp hz
  have hsuffix : x.rest <:+ ps := ⟨_, h.sources⟩
  unfold grow? at hgrow
  split at hgrow
  · cases hgrow
  · next hne =>
    cases hgrow
    refine ⟨?_, List.forall_mem_cons.mpr ⟨⟨x.rest, hsuffix, y, hy, rfl, hne⟩, h.entries⟩⟩
    rw [List.reverse_cons, List.flatMap_append, List.flatMap_singleton, List.append_assoc,
      List.takeWhile_append_dropWhile, h.sources]

theorem covers_allFrom {n : Nat} {xs : List (Parse (Row α))} {w : Weighted (Row α)}
    (hxs : ∀ x ∈ xs, Covers entry ps x) (h : allFrom entry n xs = some w) :
    (w.value.flatMap fun e => e.2) = ps ∧ ∀ e ∈ w.value, IsReadFrom entry ps e := by
  induction n generalizing xs with
  | zero => cases h
  | succ n ih =>
    cases xs with
    | nil => cases h
    | cons x xs =>
      obtain ⟨hx, hrest⟩ := List.forall_mem_cons.mp hxs
      unfold allFrom at h
      split at h
      · next hnil =>
        cases h
        have hsources := hx.sources
        rw [hnil, List.append_nil] at hsources
        exact ⟨hsources, fun e he => hx.entries e (List.mem_reverse.mp he)⟩
      · refine ih (fun y hy => ?_) h
        rcases mem_absorb hy with hy | hy
        · exact hrest y hy
        · exact hx.extend hy

/-- **A row of entries** covers the pieces that it was read from. -/
theorem covers_allWithSource {w : Weighted (Row α)} (h : allWithSource entry ps = some w) :
    (w.value.flatMap fun e => e.2) = ps ∧ ∀ e ∈ w.value, IsReadFrom entry ps e :=
  covers_allFrom (List.forall_mem_singleton.mpr ⟨rfl, fun _ he => absurd he List.not_mem_nil⟩) h

end Row

/-! ### Values -/

section Yields

variable {α β : Type}

/-- Whatever a reader reads has a property. -/
def Yields (P : α → Prop) (r : Reader α) : Prop := ∀ ps, ∀ x ∈ r ps, P x.value

variable {P : α → Prop}

theorem yields_pure {a : α} (h : P a) : Yields P (pure a) := fun _ x hx => by
  rw [mem_pure.mp hx]
  exact h

theorem yields_fail : Yields P fail := fun _ _ hx => absurd hx List.not_mem_nil

theorem Yields.bind {r : Reader β} {f : β → Reader α} (h : ∀ b, Yields P (f b)) :
    Yields P (r >>= f) := fun _ x hx => by
  obtain ⟨y, _, z, hz, rfl⟩ := mem_bind.mp hx
  exact h _ _ z hz

theorem Yields.orElse {r s : Reader α} (hr : Yields P r) (hs : Yields P s) :
    Yields P (r <|> s) := fun ps x hx => (mem_orElse.mp hx).elim (hr ps x) (hs ps x)

end Yields

end Reader

open Reader

/-! ### Contents -/

section Content

variable {g : Phrases} {ps : List Piece} {y : Parse Content}

/-- A content that keeps the semicolon behind it. -/
def Content.IsClosed (c : Content) : Prop := c.leavesSemicolon = false

theorem yields_declaration (g : Phrases) : Yields Content.IsClosed (declaration g) :=
  .bind fun _ => .bind fun _ => .bind fun _ => yields_pure rfl

theorem yields_typeDefinition (g : Phrases) : Yields Content.IsClosed (typeDefinition g) := by
  refine .bind fun _ => .bind fun _ => .bind fun _ => .bind fun _ => .bind fun _ => .bind fun ds =>
    .bind fun _ => .bind fun _ => ?_
  cases ds with
  | nil => exact yields_fail
  | cons d ds => exact yields_pure rfl

theorem yields_nothing (r : Reader Unit) :
    Yields Content.IsClosed (do r; return Content.nothing) :=
  .bind fun _ => yields_pure rfl

/-- A type specifier alone takes a piece besides its semicolon. -/
theorem exists_of_mem_emptyDeclaration [g.TakeFront] (h : y ∈ emptyDeclaration g ps) :
    ∃ front, front ++ y.rest = ps ∧ 2 ≤ front.length := by
  obtain ⟨x, hx, z, hz, rfl⟩ := mem_bind.mp h
  obtain ⟨v, hv, w, hw, rfl⟩ := mem_bind.mp hz
  rw [mem_pure.mp hw]
  have hbase : x.rest <:+ ps := TakesFront.suffix hx
  have hmark : v.rest <:+ x.rest := TakesFront.suffix hv
  have hbase' : x.rest.length < ps.length := TakesPiece.length_lt hx
  have hmark' : v.rest.length < x.rest.length := TakesPiece.length_lt hv
  obtain ⟨front, hfront⟩ := hmark.trans hbase
  have hlength := congrArg List.length hfront
  rw [List.length_append] at hlength
  exact ⟨front, hfront, by omega⟩

/-- What leaves its semicolon is a type specifier alone. -/
theorem mem_emptyDeclaration_of_leavesSemicolon {item : Item} (h : y ∈ item.entry ps)
    (hleaves : y.value.leavesSemicolon = true) : y ∈ emptyDeclaration item.phrases ps := by
  have hclosed : ∀ {r : Reader Content}, Yields Content.IsClosed r → y ∉ r ps := fun hr hy => by
    rw [hr ps y hy] at hleaves
    cases hleaves
  have hdeclaration := hclosed (yields_declaration item.phrases)
  unfold Item.entry at h
  split at h
  · rcases mem_orElse.mp h with h | h
    · exact absurd h hdeclaration
    · exact absurd h (hclosed (yields_nothing _))
  · rcases mem_orElse.mp h with h | h
    · rcases mem_orElse.mp h with h | h
      · exact absurd h hdeclaration
      · rcases mem_orElse.mp h with h | h
        · exact h
        · rcases mem_orElse.mp h with h | h
          · exact absurd h (hclosed (yields_typeDefinition _))
          · exact absurd h (hclosed (yields_nothing _))
    · rcases mem_orElse.mp h with h | h
      · exact absurd h (hclosed (yields_nothing _))
      · exact absurd h (hclosed (.bind fun _ => yields_pure rfl))

instance (item : Item) : item.phrases.TakeFront := by
  unfold Item.phrases
  infer_instance

/-- What leaves its semicolon has been read from two pieces at least. -/
theorem two_le_length_of_isReadFrom {item : Item} {e : Content × List Piece}
    (hps : Piece.AreOrdered ps) (h : IsReadFrom item.entry ps e)
    (hleaves : e.1.leavesSemicolon = true) : 2 ≤ e.2.length := by
  obtain ⟨rest, hrest, y, hy, rfl, -⟩ := h
  obtain ⟨front, rfl, hlength⟩ :=
    exists_of_mem_emptyDeclaration (mem_emptyDeclaration_of_leavesSemicolon hy hleaves)
  have hplaces := (hps.sublist hrest.sublist).places
  -- The pieces in front stand before the place where the rest begins.
  have hfront : ∀ p ∈ front, p.precedes y.place = true := by
    intro p hp
    unfold Parse.place Piece.precedes
    cases hy : y.rest with
    | nil => rfl
    | cons q qs =>
      rw [hy] at hplaces
      exact decide_eq_true ((List.pairwise_append.mp hplaces).2.2 p hp q List.mem_cons_self)
  rw [List.takeWhile_append_of_pos hfront, List.length_append]
  omega

/-- Contents that were read from some tokens. -/
structure Contents.AreReadFrom (ts : List Token) (contents : Contents) : Prop where
  /-- Their tokens are all these tokens. -/
  tokens : (contents.flatMap fun c => c.2) = ts
  /-- Each has a token. -/
  ne_nil : ∀ c ∈ contents, c.2 ≠ []
  /-- What leaves its semicolon has another one. -/
  two_le_length : ∀ c ∈ contents, c.1.leavesSemicolon = true → 2 ≤ c.2.length

/-- **The contents of some pieces** are read from the tokens of these pieces. -/
theorem areReadFrom_of_contents? {item : Item} {contents : Contents} (hps : Piece.AreOrdered ps)
    (h : contents? item ps = some contents) :
    contents.AreReadFrom (Piece.flatten ps) := by
  rw [contents?_eq] at h
  split at h
  · obtain ⟨w, hw, rfl⟩ := Option.map_eq_some_iff.mp h
    obtain ⟨hsources, hentries⟩ := covers_allWithSource hw
    have hordered : ∀ e ∈ w.value, Piece.AreOrdered e.2 := fun e he => by
      obtain ⟨rest, hrest, y, _, rfl, -⟩ := hentries e he
      exact hps.sublist ((List.takeWhile_sublist _).trans hrest.sublist)
    refine ⟨?_, fun c hc => ?_, fun c hc hleaves => ?_⟩
    · rw [List.flatMap_map, ← hsources, Piece.flatten, List.flatMap_assoc]
      rfl
    · obtain ⟨e, he, rfl⟩ := List.mem_map.mp hc
      obtain ⟨_, _, _, _, _, hne⟩ := hentries e he
      have hlength := (hordered e he).length_le
      have hpos := List.length_pos_iff.mpr hne
      exact List.length_pos_iff.mp (Nat.lt_of_lt_of_le hpos hlength)
    · obtain ⟨e, he, rfl⟩ := List.mem_map.mp hc
      have htwo := two_le_length_of_isReadFrom hps (hentries e he) hleaves
      exact Nat.le_trans htwo (hordered e he).length_le
  · cases h

end Content

end Bindery.Header
