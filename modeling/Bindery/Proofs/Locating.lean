import Bindery.Proofs.ItemOrder
import Bindery.Proofs.Joined
import Bindery.Proofs.OutcomePlace

/-!
# Where declarations stand

Every declaration of a header stands somewhere in it, and each ends before the next one begins,
however deep they lie in blocks; only the functions of one declaration with several declarators
stand at the same place. The place of a diagnostic, if it has one, is in the header too.
-/

namespace Bindery.Header

open Token (HaveTexts spanFrom widthOf)

/-! ### Items -/

section Item

open Piece (flatten AreOrdered)

variable {item : Item} {ps : List Piece}

/-- A semicolon that is not there stands behind all pieces. -/
theorem areOrdered_withSemicolon (h : AreOrdered ps) : AreOrdered (withSemicolon ps) where
  tokens := List.forall_mem_append.mpr ⟨h.tokens, List.forall_mem_singleton.mpr
    (List.cons_ne_nil _ _)⟩
  places := by
    refine List.pairwise_append.mpr ⟨h.places, List.pairwise_singleton _ _, fun p hp =>
      List.forall_mem_singleton.mpr ?_⟩
    obtain ⟨front, last, rfl⟩ : ∃ front last, ps = front ++ [last] := by
      rcases List.eq_nil_or_concat ps with rfl | ⟨front, last, rfl⟩
      · exact absurd hp List.not_mem_nil
      · exact ⟨front, last, List.concat_eq_append⟩
    have hlast := List.length_pos_iff.mpr
      (h.tokens last (List.mem_append_right front List.mem_cons_self))
    have hle : p.place ≤ last.place := by
      rcases List.mem_append.mp hp with hfront | hlast
      · exact Nat.le_of_lt
          ((List.pairwise_append.mp h.places).2.2 p hfront last List.mem_cons_self)
      · rw [List.mem_singleton.mp hlast]
    rw [List.getLast?_concat]
    change p.place < last.place + last.tokens.length
    omega

/-- The semicolon that is not there. -/
def absentSemicolon : Token := ⟨.mark, [';'], []⟩

theorem flatten_withSemicolon (ps : List Piece) :
    flatten (withSemicolon ps) = flatten ps ++ [absentSemicolon] :=
  Piece.flatten_append ps _

theorem haveTexts_withSemicolon (h : HaveTexts (flatten ps)) :
    HaveTexts (flatten ps ++ [absentSemicolon]) :=
  h.append (HaveTexts.nil.cons (List.cons_ne_nil _ _))

/-- Contents that lack a semicolon stand where the pieces do that they were read from. -/
theorem arePlaced_unfinished_of_contents? {contents : Contents} (h : AreOrdered ps)
    (hts : HaveTexts (flatten ps)) (hcontents : contents? item (withSemicolon ps) = some contents)
    (offset : Nat) :
    ArePlaced offset (unfinished offset contents) (offset + widthOf (flatten ps)) := by
  have hread := areReadFrom_of_contents? (areOrdered_withSemicolon h) hcontents
  rw [flatten_withSemicolon] at hread
  exact hread.arePlaced_unfinished (haveTexts_withSemicolon hts) offset

theorem completeUpTo_eq_some {k n : Nat} {contents : Contents}
    (h : completeUpTo item ps k = some (n, contents)) :
    contents? item (withSemicolon (ps.take n)) = some contents := by
  induction k with
  | zero => cases h
  | succ k ih =>
    unfold completeUpTo at h
    split at h
    · next hcontents =>
      cases h
      exact hcontents
    · exact ih h

section Pieces

variable (h : AreOrdered ps) (hts : HaveTexts (flatten ps))

include h hts

theorem arePlaced_readSplit? {outcomes : List Outcome}
    (hsplit : readSplit? item ps = some outcomes) :
    ArePlaced item.start outcomes (item.start + widthOf (flatten ps)) := by
  rw [readSplit?] at hsplit
  obtain ⟨⟨n, contents⟩, hcomplete, hsplit⟩ := Option.bind_eq_some_iff.mp hsplit
  obtain ⟨next, -, hsplit⟩ := Option.bind_eq_some_iff.mp hsplit
  dsimp only at hsplit
  split_ifs at hsplit
  obtain ⟨rest, hrest, hsplit⟩ := Option.bind_eq_some_iff.mp hsplit
  cases hsplit
  have hflatten : flatten (ps.take n) ++ flatten (ps.drop n) = flatten ps := by
    rw [← Piece.flatten_append, List.take_append_drop]
  rw [← hflatten] at hts ⊢
  have hfront := hts.sublist (List.sublist_append_left _ _)
  have hbehind := hts.sublist (List.sublist_append_right _ _)
  rw [Token.widthOf_append, ← Nat.add_assoc]
  refine ArePlaced.append (arePlaced_unfinished_of_contents? (h.sublist (List.take_sublist n ps))
    hfront (completeUpTo_eq_some hcomplete) item.start) ?_
  exact (areReadFrom_of_contents? (h.sublist (List.drop_sublist n ps)) hrest).arePlaced_outcomesFrom
    hbehind _

theorem arePlaced_readTagged (ended : Bool) :
    ArePlaced item.start (readTagged item ps ended) (item.start + widthOf (flatten ps)) := by
  have hwhole := arePlaced_malformed_spanFrom item.start (flatten ps)
  have hsplit : (ps.reverse.dropWhile isStray).reverse ++ (ps.reverse.takeWhile isStray).reverse =
      ps := by
    rw [← List.reverse_append, List.takeWhile_append_dropWhile, List.reverse_reverse]
  unfold readTagged
  dsimp only
  generalize (ps.reverse.dropWhile isStray).reverse = type at hsplit ⊢
  generalize (ps.reverse.takeWhile isStray).reverse = stray at hsplit ⊢
  subst hsplit
  rw [Piece.flatten_append] at hts hwhole ⊢
  have htype := hts.sublist (List.sublist_append_left _ _)
  have hstray := hts.sublist (List.sublist_append_right _ _)
  have hordered := h.sublist (List.sublist_append_left type stray)
  rw [Token.widthOf_append, ← Nat.add_assoc] at hwhole ⊢
  split
  · exact hwhole
  · split
    · next contents hcontents =>
      split
      · exact (arePlaced_unfinished_of_contents? hordered htype hcontents item.start).mono
          (Nat.le_add_right _ _)
      · next hempty =>
        rw [List.isEmpty_iff] at hempty
        have hread := areReadFrom_of_contents? (areOrdered_withSemicolon hordered) hcontents
        rw [flatten_withSemicolon] at hread
        have hcontents := hread.arePlaced_outcomesFrom (haveTexts_withSemicolon htype) item.start
        rw [Token.widthOf_append] at hcontents
        -- The semicolon takes up no more than the stray characters in its place.
        have hpos := hstray.widthOf_pos hempty
        have hsemicolon : widthOf [absentSemicolon] = 1 := rfl
        have hplaced := hcontents.mono (show _ ≤
          item.start + widthOf (flatten type) + widthOf (flatten stray) by omega)
        refine hplaced.append ?_
        exact arePlaced_malformed (Nat.le_refl _) start_le_stop_spanFrom (Nat.le_of_eq stop_spanFrom)
    · exact hwhole

theorem arePlaced_readPieces (hflatten : flatten ps = item.tokens) :
    ArePlaced item.start (readPieces item ps) item.stop := by
  have hstop : item.stop = item.start + widthOf (flatten ps) := by rw [hflatten]; rfl
  rw [hstop]
  unfold readPieces
  split
  · next contents hcontents =>
    exact (areReadFrom_of_contents? h hcontents).arePlaced_outcomesFrom hts item.start
  · dsimp only
    generalize hbody : (if ps.getLast?.any (·.isMark ';') then ps.dropLast else ps) = body
    have hsublist : body.Sublist ps := by
      rw [← hbody]
      split
      · exact List.dropLast_sublist ps
      · exact List.Sublist.refl ps
    have htokens : (flatten body).Sublist (flatten ps) := hsublist.flatMap Piece.tokens
    split
    · refine (arePlaced_readTagged (h.sublist hsublist) (hts.sublist htokens) _).mono ?_
      exact Nat.add_le_add_left (widthOf_le_of_sublist htokens) item.start
    · cases hsplit : readSplit? item ps with
      | some outcomes => exact arePlaced_readSplit? h hts hsplit
      | none =>
        rw [Option.getD_none, Item.span, ← hflatten]
        exact arePlaced_malformed_spanFrom item.start (flatten ps)

end Pieces

/-- **The outcomes of an item** stand one behind the other in the item. -/
theorem arePlaced_readItem (hts : HaveTexts item.tokens) :
    ArePlaced item.start (readItem item) item.stop := by
  unfold readItem
  split
  · exact arePlaced_malformed_spanFrom item.start item.tokens
  · next ps hps =>
    have hflatten := Piece.flatten_of_ofTokens? hps
    rw [← hflatten] at hts
    exact arePlaced_readPieces (Piece.areOrdered_of_ofTokens? hps) hts hflatten

end Item

/-! ### Headers -/

/-- Items that stand one behind the other have outcomes that do. -/
theorem arePlaced_outcomes {items : List Item} {start stop : Nat} (hle : start ≤ stop)
    (hitems : items.Pairwise fun earlier later => earlier.stop ≤ later.start)
    (htexts : ∀ item ∈ items, HaveTexts item.tokens) (hstart : ∀ item ∈ items, start ≤ item.start)
    (hstop : ∀ item ∈ items, item.stop ≤ stop) :
    ArePlaced start (items.flatMap readItem) stop := by
  induction items generalizing start with
  | nil => exact hle
  | cons item items ih =>
    obtain ⟨hbehind, hitems⟩ := List.pairwise_cons.mp hitems
    obtain ⟨htext, htexts⟩ := List.forall_mem_cons.mp htexts
    obtain ⟨hbegin, _⟩ := List.forall_mem_cons.mp hstart
    obtain ⟨hend, hends⟩ := List.forall_mem_cons.mp hstop
    have hbefore : ArePlaced start [] item.start := hbegin
    exact (hbefore.append (arePlaced_readItem htext)).append (ih hend hitems htexts hbehind hends)

/-- **The outcomes of a header** stand one behind the other in it. -/
theorem arePlaced_itemsOf (source : Text) :
    ArePlaced 0 ((itemsOf source).flatMap readItem) (Text.byteSize source) := by
  have htexts := haveTexts_tokens source
  refine arePlaced_outcomes (Nat.zero_le _) (pairwise_splitItems htexts)
    (haveTexts_of_mem_splitItems htexts) (fun _ _ => Nat.zero_le _) fun item hitem => ?_
  exact Nat.le_trans (stop_le_of_mem_splitItems item hitem) (widthOf_tokens_le source)

theorem mem_declarations_iff {o : Outcome} {d : Located} :
    d ∈ o.declarations ↔ ∃ ds, o.result = .ok ds ∧ d.declaration ∈ ds ∧ d.span = o.span := by
  obtain ⟨declaration, span⟩ := d
  unfold Outcome.declarations
  cases o.result with
  | error fault => simp
  | ok ds => simp [eq_comm]

/-- The place of a fault, if it has one, is that of the part. -/
theorem span_of_mem_diagnostics {o : Outcome} {d : Diagnostic} (hd : d ∈ o.diagnostics)
    {span : Span} (hspan : span ∈ d.span) : span = o.span := by
  unfold Outcome.diagnostics at hd
  split at hd
  · cases hd
  · next fault _ =>
    rw [List.mem_singleton.mp hd, Fault.diagnostic, Diagnostic.locate] at hspan
    unfold Span.nonempty? at hspan
    split at hspan
    · next s hs =>
      split_ifs at hs
      cases hs
      cases hspan
      rfl
    · cases hspan

/-- Two functions that one declaration with several declarators declares. -/
structure DeclaredTogether (source : Text) (d e : Located) : Prop where
  /-- They stand at the same place. -/
  span : d.span = e.span
  /-- The first is a function. -/
  first : ∃ s, d.declaration = .function s
  /-- So is the second. -/
  second : ∃ s, e.declaration = .function s
  /-- A part of an item declares both, the first one before the second. -/
  part : ∃ item ∈ itemsOf source, ∃ offset base shapes ts, 2 ≤ shapes.length ∧
    Outcome.ofContent offset (.declared base shapes) ts ∈ readItem item ∧
    [d, e].Sublist (Outcome.ofContent offset (.declared base shapes) ts).declarations

/-- What one part declares is one thing, or functions that are declared together. -/
theorem pairwise_declarations {source : Text} {item : Item} {o : Outcome}
    (hitem : item ∈ itemsOf source) (ho : o ∈ readItem item) (hpart : o.IsOfPart) :
    o.declarations.Pairwise (DeclaredTogether source) := by
  refine List.pairwise_iff_forall_sublist.mpr fun {d e} hde => ?_
  have htwo : 2 ≤ o.declarations.length := hde.length_le
  rcases hpart with hone | ⟨offset, base, shapes, ts, rfl⟩
  · omega
  · obtain ⟨ds, hds, hd, hdspan⟩ := mem_declarations_iff.mp (hde.subset List.mem_cons_self)
    obtain ⟨es, hes, he, hespan⟩ :=
      mem_declarations_iff.mp (hde.subset (List.mem_cons_of_mem d List.mem_cons_self))
    rw [hds] at hes
    cases hes
    obtain ⟨hlength, hfunctions⟩ := declarations_declared hds
    refine ⟨hdspan.trans hespan.symm, hfunctions _ hd, hfunctions _ he, item, hitem, offset, base,
      shapes, ts, ?_, ho, hde⟩
    rw [Outcome.declarations, hds] at htwo
    dsimp only at htwo
    rw [List.length_map] at htwo
    omega

/-- **Spans locate.** Each declaration of a header takes up some bytes of it, and of two the earlier
one ends before the later one begins, unless one declaration declares both as functions. The place
of a diagnostic is in the header. -/
theorem spans_read (source : Text) :
    (∀ d ∈ (read source).declarations,
      d.span.start < d.span.stop ∧ d.span.stop ≤ Text.byteSize source) ∧
    (read source).declarations.Pairwise (fun d e =>
      d.span.stop ≤ e.span.start ∨ DeclaredTogether source d e) ∧
    ∀ d ∈ (read source).diagnostics, ∀ span ∈ d.span,
      span.start ≤ span.stop ∧ span.stop ≤ Text.byteSize source := by
  have hplaced := arePlaced_itemsOf source
  have hpart : ∀ o ∈ (itemsOf source).flatMap readItem, o.declarations.Pairwise
      (DeclaredTogether source) := fun o ho => by
    obtain ⟨item, hitem, hread⟩ := List.mem_flatMap.mp ho
    exact pairwise_declarations hitem hread (hplaced.isPlaced o ho).part
  refine ⟨fun d hd => ?_, ?_, fun d hd span hspan => ?_⟩
  · obtain ⟨o, ho, hd⟩ := List.mem_flatMap.mp hd
    obtain ⟨_, _, _, hspan⟩ := mem_declarations_iff.mp hd
    rw [hspan]
    have hin := hplaced.isPlaced o ho
    exact ⟨(hin.declares (List.ne_nil_of_mem hd)).2, hin.stop_le⟩
  · refine List.pairwise_flatMap.mpr ⟨fun o ho => (hpart o ho).imp Or.inr, ?_⟩
    refine hplaced.pairwise.imp fun hbehind d hd e he => Or.inl ?_
    obtain ⟨_, _, _, hdspan⟩ := mem_declarations_iff.mp hd
    obtain ⟨_, _, _, hespan⟩ := mem_declarations_iff.mp he
    rw [hdspan, hespan]
    exact hbehind (List.ne_nil_of_mem he)
  · rcases List.mem_append.mp hd with hd | hd
    · obtain ⟨o, ho, hd⟩ := List.mem_flatMap.mp hd
      rw [span_of_mem_diagnostics hd hspan]
      have hin := hplaced.isPlaced o ho
      exact ⟨hin.ordered, hin.stop_le⟩
    · -- A block that is never closed is reported without a place.
      rw [List.eq_of_mem_replicate hd] at hspan
      cases hspan

end Bindery.Header
