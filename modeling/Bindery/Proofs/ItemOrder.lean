import Bindery.Proofs.SplitFrame
import Bindery.Proofs.TokenText

/-!
# Items stand one behind the other

An item begins where its first token does, behind all that has been taken, or it goes on with the
last one that has been found. So each item ends before the next one begins, in blocks as outside.
-/

namespace Bindery.Header

open Token (HaveTexts)

namespace Splitter

variable {s : Splitter} {t : Token}

/-- The items found stand one behind the other and before the one being read, and all tokens have
texts. -/
structure IsOrdered (s : Splitter) : Prop where
  /-- An item found later stands behind those found before it. -/
  items : s.items.Pairwise fun later earlier => earlier.stop ≤ later.start
  /-- So does the item being read, once it has begun. -/
  taken : s.taken ≠ [] → ∀ item ∈ s.items, item.stop ≤ s.start
  /-- The tokens of the items have texts. -/
  itemTexts : ∀ item ∈ s.items, HaveTexts item.tokens
  /-- So have those of the item being read. -/
  takenTexts : HaveTexts s.taken

/-- Between items nothing has been taken. -/
theorem IsOrdered.of_taken_eq_nil {s' : Splitter} (h : s.IsOrdered) (hitems : s'.items = s.items)
    (htaken : s'.taken = []) : s'.IsOrdered where
  items := hitems ▸ h.items
  taken hne := absurd htaken hne
  itemTexts := hitems ▸ h.itemTexts
  takenTexts := htaken ▸ HaveTexts.nil

theorem IsOrdered.close (h : s.IsOrdered) : s.close.IsOrdered := by
  unfold Splitter.close
  split
  · exact h.of_taken_eq_nil rfl rfl
  · next hne =>
    rw [List.isEmpty_iff] at hne
    refine ⟨List.pairwise_cons.mpr ⟨h.taken hne, h.items⟩, fun htaken => absurd rfl htaken,
      List.forall_mem_cons.mpr ⟨fun u hu => ?_, h.itemTexts⟩, HaveTexts.nil⟩
    exact h.takenTexts u (List.mem_reverse.mp hu)

/-- A token more in an item that stands behind all others. -/
theorem IsOrdered.take (h : s.IsOrdered) (hstart : ∀ item ∈ s.items, item.stop ≤ s.start)
    (ht : t.text ≠ []) : (s.take t).IsOrdered := by
  rcases goesOn_or_eq_close s t with hgoesOn | hclose
  · refine ⟨?_, fun _ => ?_, ?_, ?_⟩
    · rw [hgoesOn.items]
      exact h.items
    · rw [hgoesOn.items, hgoesOn.start]
      exact hstart
    · rw [hgoesOn.items]
      exact h.itemTexts
    · rw [hgoesOn.taken]
      exact h.takenTexts.cons ht
  · rw [hclose]
    exact IsOrdered.close ⟨h.items, fun _ => hstart, h.itemTexts, h.takenTexts.cons ht⟩

section Open

variable (h : s.IsOrdered) (hends : ∀ item ∈ s.items, item.stop ≤ s.offset) (ht : t.text ≠ [])

include h hends ht

/-- An item of which the first token has been taken. -/
theorem isOrdered_first (heading : Heading) :
    IsOrdered { s.before t with heading := heading, taken := [t.withoutGap] } where
  items := h.items
  taken _ item hitem := Nat.le_add_right_of_le (hends item hitem)
  itemTexts := h.itemTexts
  takenTexts := HaveTexts.nil.cons ht

theorem isOrdered_begin : (s.begin t).IsOrdered := by
  have hbefore : ∀ heading, IsOrdered { s.before t with heading := heading } := fun _ =>
    h.of_taken_eq_nil rfl rfl
  have hstart : ∀ item ∈ s.items, item.stop ≤ s.offset + Text.byteSize t.gap := fun item hitem =>
    Nat.le_add_right_of_le (hends item hitem)
  unfold begin
  split
  · exact isOrdered_first h hends ht _
  · split
    · exact (isOrdered_first h hends ht .plain).close
    · exact (hbefore _).take hstart ht

theorem isOrdered_open : (s.open_ t).IsOrdered := by
  unfold open_
  split_ifs
  · exact h.of_taken_eq_nil rfl rfl
  · exact h.of_taken_eq_nil rfl rfl
  · exact (isOrdered_first h hends ht .plain).close
  · split
    · next last others hlist =>
      split
      · -- The item goes on, and those before it stand before it.
        have hitems := h.items
        have htexts := h.itemTexts
        rw [hlist] at hitems htexts
        obtain ⟨hstart, hothers⟩ := List.pairwise_cons.mp hitems
        obtain ⟨hlast, hrest⟩ := List.forall_mem_cons.mp htexts
        unfold resume
        refine IsOrdered.take ⟨hothers, fun _ => hstart, hrest, fun u hu => ?_⟩ hstart ht
        exact hlast u (List.mem_reverse.mp hu)
      · exact isOrdered_begin h hends ht
    · exact isOrdered_begin h hends ht

end Open

section Step

variable (h : s.IsOrdered) (hbounded : IsBounded s.offset s) (ht : t.text ≠ [])

include h hbounded

include ht in
theorem IsOrdered.acceptSettled : (s.acceptSettled t).IsOrdered := by
  have hclose : (s.close.open_ t).IsOrdered := by
    refine isOrdered_open h.close (fun item hitem => ?_) ht
    rw [offset_close]
    exact hbounded.close.items item hitem
  unfold Splitter.acceptSettled
  split_ifs with _ _ _ _ hempty
  · exact h
  · exact hclose
  · exact h.of_taken_eq_nil rfl rfl
  · exact isOrdered_open (s := { s.between with linkage := true }) (h.of_taken_eq_nil rfl rfl)
      hbounded.items ht
  · exact isOrdered_open h hbounded.items ht
  · rw [List.isEmpty_iff] at hempty
    exact ⟨h.items, fun _ => h.taken hempty, h.itemTexts, h.takenTexts.cons ht⟩
  · exact hclose
  · rw [List.isEmpty_iff] at hempty
    exact h.take (h.taken hempty) ht

theorem IsOrdered.settle : s.settle.IsOrdered := by
  unfold Splitter.settle
  split
  · next u us _ htaken =>
    have hwidth := hbounded.taken
    have htexts := h.takenTexts
    have hstart := h.taken (by rw [htaken]; exact List.cons_ne_nil u us)
    rw [htaken] at htexts
    rw [htaken, Token.widthOf] at hwidth
    obtain ⟨hu, hus⟩ := List.forall_mem_cons.mp htexts
    -- Without the token in doubt, all that has been taken ends where that token's gap begins.
    let s' : Splitter := { s with offset := s.offset - u.width, taken := us, extra := false }
    have hshort : s'.IsOrdered := ⟨h.items, fun _ => hstart, h.itemTexts, hus⟩
    have hends : IsBounded s'.offset s' := by
      refine ⟨fun item hitem => ?_, ?_, (absurd · Bool.false_ne_true)⟩
      · have hitem := hstart item hitem
        dsimp only [s']
        omega
      · dsimp only [s']
        omega
    have hopen : (s'.close.open_ u).IsOrdered := by
      refine isOrdered_open hshort.close (fun item hitem => ?_) hu
      rw [offset_close]
      exact hends.close.items item hitem
    exact ⟨hopen.items, hopen.taken, hopen.itemTexts, hopen.takenTexts⟩
  · exact h

include ht in
theorem IsOrdered.step : (s.step t).IsOrdered := by
  have haccept : (s.accept t).IsOrdered := by
    unfold accept
    split
    · next hdoubt =>
      have hne := hbounded.extra (Bool.and_eq_true_iff.mp hdoubt).1
      exact IsOrdered.take (s := { s with extra := false })
        ⟨h.items, h.taken, h.itemTexts, h.takenTexts⟩ (h.taken hne) ht
    · have hsettle := hbounded.settle
      rw [← offset_settle] at hsettle
      exact (h.settle hbounded).acceptSettled hsettle ht
  exact ⟨haccept.items, haccept.taken, haccept.itemTexts, haccept.takenTexts⟩

end Step

/-- In a run each item ends before the next one begins. -/
theorem IsOrdered.run (h : s.IsOrdered) (hbounded : IsBounded s.offset s) {ts : List Token}
    (hts : HaveTexts ts) : (s.run ts).IsOrdered := by
  induction ts generalizing s with
  | nil => exact h
  | cons t ts ih =>
    obtain ⟨ht, hts⟩ := List.forall_mem_cons.mp hts
    exact ih (h.step hbounded ht) hbounded.step hts

theorem isOrdered_empty : IsOrdered {} :=
  ⟨List.Pairwise.nil, fun hne => absurd rfl hne, fun _ hitem => absurd hitem List.not_mem_nil,
    HaveTexts.nil⟩

/-- So does each item of a token list. -/
theorem isOrdered_settle_run {ts : List Token} (hts : HaveTexts ts) :
    (run {} ts).settle.close.IsOrdered :=
  ((isOrdered_empty.run isBounded_empty hts).settle
    (IsBounded.run (s := {}) isBounded_empty ts)).close

end Splitter

open Splitter

variable {ts : List Token}

/-- **The items of a token list** stand one behind the other. -/
theorem pairwise_splitItems (hts : HaveTexts ts) :
    (splitItems ts).1.Pairwise fun earlier later => earlier.stop ≤ later.start :=
  List.pairwise_reverse.mpr (isOrdered_settle_run hts).items

/-- Their tokens have texts. -/
theorem haveTexts_of_mem_splitItems (hts : HaveTexts ts) :
    ∀ item ∈ (splitItems ts).1, HaveTexts item.tokens := fun item hitem =>
  (isOrdered_settle_run hts).itemTexts item (List.mem_reverse.mp hitem)

/-- They end before the last token does. -/
theorem stop_le_of_mem_splitItems : ∀ item ∈ (splitItems ts).1, item.stop ≤ Token.widthOf ts := by
  have hrun : IsBounded (run {} ts).offset (run {} ts) := IsBounded.run (s := {}) isBounded_empty ts
  have hoffset : (run {} ts).offset = Token.widthOf ts := (offset_run ts).trans (Nat.zero_add _)
  rw [← hoffset]
  exact fun item hitem => hrun.settle.close.items item (List.mem_reverse.mp hitem)

end Bindery.Header
