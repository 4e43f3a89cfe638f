import Bindery.Proofs.ContentSource
import Bindery.Proofs.TokenText

/-!
# Outcomes in their places

Outcomes stand one behind the other as the tokens do that they come from. What declares something
takes up some bytes, since its tokens have texts; a fault may stand nowhere.
-/

namespace Bindery.Header

open Token (HaveTexts spanFrom widthOf)

/-! ### Spans of tokens -/

section Span

variable {offset : Nat} {ts : List Token}

theorem start_le_stop_spanFrom : (spanFrom offset ts).start ≤ (spanFrom offset ts).stop := by
  cases ts with
  | nil => exact Nat.le_refl offset
  | cons t ts =>
    simp only [spanFrom, widthOf, Token.width]
    omega

theorem stop_spanFrom : (spanFrom offset ts).stop = offset + widthOf ts := by
  cases ts with
  | nil => rfl
  | cons t ts => rfl

theorem le_start_spanFrom : offset ≤ (spanFrom offset ts).start := by
  cases ts with
  | nil => exact Nat.le_refl offset
  | cons t ts => exact Nat.le_add_right _ _

/-- Tokens that have texts take up some bytes behind the gap before them. -/
theorem start_lt_stop_spanFrom (hts : HaveTexts ts) (hne : ts ≠ []) :
    (spanFrom offset ts).start < (spanFrom offset ts).stop := by
  cases ts with
  | nil => exact absurd rfl hne
  | cons t ts =>
    obtain ⟨ht, _⟩ := List.forall_mem_cons.mp hts
    have htext : HaveTexts [t.withoutGap] := HaveTexts.nil.cons ht
    have hwidth := htext.widthOf_pos (List.cons_ne_nil _ _)
    simp only [spanFrom, widthOf, Token.width, Token.withoutGap, Text.byteSize_nil] at hwidth ⊢
    omega

/-- Fewer tokens take up fewer bytes. -/
theorem widthOf_le_of_sublist {us : List Token} (h : us.Sublist ts) : widthOf us ≤ widthOf ts := by
  induction h with
  | slnil => exact Nat.le_refl _
  | cons t _ ih => exact Nat.le_add_left_of_le ih
  | cons_cons t _ ih => exact Nat.add_le_add_left ih t.width

theorem dropLast_ne_nil {us : List Token} (h : 2 ≤ us.length) : us.dropLast ≠ [] := by
  refine List.length_pos_iff.mp ?_
  rw [List.length_dropLast]
  omega

end Span

/-! ### Outcomes in their places -/

/-- What one part of an item gives: one declaration at most, or the functions that the declarators
of one declaration give. -/
def Outcome.IsOfPart (o : Outcome) : Prop :=
  o.declarations.length ≤ 1 ∨
    ∃ offset base shapes ts, o = Outcome.ofContent offset (.declared base shapes) ts

/-- An outcome of which the declarations stand between two offsets, and a fault before the second
one, if it stands anywhere. -/
structure Outcome.IsPlaced (start stop : Nat) (o : Outcome) : Prop where
  /-- The offsets are in order. -/
  start_le_stop : start ≤ stop
  /-- So are the ends of its span. -/
  ordered : o.span.start ≤ o.span.stop
  /-- It ends before the second offset. -/
  stop_le : o.span.stop ≤ stop
  /-- What declares something begins behind the first offset and takes up some bytes. -/
  declares : o.declarations ≠ [] → start ≤ o.span.start ∧ o.span.start < o.span.stop
  /-- It is what one part gives. -/
  part : o.IsOfPart

namespace Outcome.IsPlaced

variable {start stop start' stop' : Nat} {o : Outcome}

theorem mono (h : o.IsPlaced start stop) (hstart : start' ≤ start) (hstop : stop ≤ stop') :
    o.IsPlaced start' stop' where
  start_le_stop := Nat.le_trans hstart (Nat.le_trans h.start_le_stop hstop)
  ordered := h.ordered
  stop_le := Nat.le_trans h.stop_le hstop
  declares hne := ⟨Nat.le_trans hstart (h.declares hne).1, (h.declares hne).2⟩
  part := h.part

/-- A part that stands where some tokens with texts do, among others, is in its place. -/
theorem of_span {offset : Nat} {ts us : List Token} (hspan : o.span = spanFrom offset us)
    (hts : HaveTexts ts) (hus : us.Sublist ts) (hne : us ≠ []) (hpart : o.IsOfPart) :
    o.IsPlaced offset (offset + widthOf ts) where
  start_le_stop := Nat.le_add_right _ _
  ordered := by
    rw [hspan]
    exact start_le_stop_spanFrom
  stop_le := by
    rw [hspan, stop_spanFrom]
    exact Nat.add_le_add_left (widthOf_le_of_sublist hus) offset
  declares _ := by
    rw [hspan]
    exact ⟨le_start_spanFrom, start_lt_stop_spanFrom (hts.sublist hus) hne⟩
  part := hpart

end Outcome.IsPlaced

/-- Outcomes that stand one behind the other between two offsets. -/
def ArePlaced : Nat → List Outcome → Nat → Prop
  | start, [], stop => start ≤ stop
  | start, o :: os, stop => ∃ middle, o.IsPlaced start middle ∧ ArePlaced middle os stop

namespace ArePlaced

variable {start middle stop : Nat} {os os' : List Outcome}

theorem start_le_stop (h : ArePlaced start os stop) : start ≤ stop := by
  induction os generalizing start with
  | nil => exact h
  | cons o os ih =>
    obtain ⟨middle, ho, hos⟩ := h
    exact Nat.le_trans ho.start_le_stop (ih hos)

theorem single {o : Outcome} (h : o.IsPlaced start stop) : ArePlaced start [o] stop :=
  ⟨stop, h, Nat.le_refl stop⟩

theorem append (h : ArePlaced start os middle) (h' : ArePlaced middle os' stop) :
    ArePlaced start (os ++ os') stop := by
  induction os generalizing start with
  | nil =>
    cases os' with
    | nil => exact Nat.le_trans h h'
    | cons o os' =>
      obtain ⟨middle', ho, hos⟩ := h'
      exact ⟨middle', ho.mono h (Nat.le_refl _), hos⟩
  | cons o os ih =>
    obtain ⟨middle', ho, hos⟩ := h
    exact ⟨middle', ho, ih hos⟩

theorem mono (h : ArePlaced start os middle) (hle : middle ≤ stop) : ArePlaced start os stop := by
  have hnil : ArePlaced middle [] stop := hle
  have happend := h.append hnil
  rwa [List.append_nil] at happend

/-- Each of them stands between the offsets. -/
theorem isPlaced (h : ArePlaced start os stop) : ∀ o ∈ os, o.IsPlaced start stop := by
  induction os generalizing start with
  | nil => exact fun _ ho => absurd ho List.not_mem_nil
  | cons o os ih =>
    obtain ⟨middle, ho, hos⟩ := h
    exact List.forall_mem_cons.mpr ⟨ho.mono (Nat.le_refl _) hos.start_le_stop, fun o' ho' =>
      (ih hos o' ho').mono ho.start_le_stop (Nat.le_refl _)⟩

/-- Those that declare something end before the next ones begin. -/
theorem pairwise (h : ArePlaced start os stop) :
    os.Pairwise fun o o' => o'.declarations ≠ [] → o.span.stop ≤ o'.span.start := by
  induction os generalizing start with
  | nil => exact List.Pairwise.nil
  | cons o os ih =>
    obtain ⟨middle, ho, hos⟩ := h
    refine List.pairwise_cons.mpr ⟨fun o' ho' hne => ?_, ih hos⟩
    exact Nat.le_trans ho.stop_le ((hos.isPlaced o' ho').declares hne).1

end ArePlaced

/-! ### Parts -/

theorem functionOf_eq_ok {base : BaseType} {shape : Shape} {ds : List Declaration}
    (h : functionOf base shape = .ok ds) :
    ds.length ≤ 1 ∧ ∀ d ∈ ds, ∃ s, d = .function s := by
  unfold functionOf at h
  split at h
  · cases h
    exact ⟨Nat.zero_le 1, fun _ hd => absurd hd List.not_mem_nil⟩
  · split at h
    · cases h
      exact ⟨Nat.zero_le 1, fun _ hd => absurd hd List.not_mem_nil⟩
    · split at h
      · cases h
      · cases h
        exact ⟨Nat.le_refl 1, List.forall_mem_singleton.mpr ⟨_, rfl⟩⟩

/-- A declaration declares functions only, at most as many as it has declarators. -/
theorem declarations_declared {base : BaseType} {shapes : List Shape} {ds : List Declaration}
    (h : (Content.declared base shapes).declarations = .ok ds) :
    ds.length ≤ shapes.length ∧ ∀ d ∈ ds, ∃ s, d = .function s := by
  have hmap : (shapes.mapM (functionOf base) >>= fun dss => .ok dss.flatten) = .ok ds := h
  clear h
  induction shapes generalizing ds with
  | nil =>
    cases hmap
    exact ⟨Nat.le_refl 0, fun _ hd => absurd hd List.not_mem_nil⟩
  | cons shape shapes ih =>
    rw [List.mapM_cons] at hmap
    cases hfirst : functionOf base shape with
    | error fault =>
      rw [hfirst] at hmap
      cases hmap
    | ok es =>
      cases hrest : shapes.mapM (functionOf base) with
      | error fault =>
        rw [hfirst, hrest] at hmap
        cases hmap
      | ok dss =>
        rw [hfirst, hrest] at hmap
        cases hmap
        rw [hrest] at ih
        obtain ⟨hlength, hfunctions⟩ := functionOf_eq_ok hfirst
        obtain ⟨hlengths, hothers⟩ := ih rfl
        rw [List.flatten_cons, List.length_append, List.length_cons]
        exact ⟨by omega, List.forall_mem_append.mpr ⟨hfunctions, hothers⟩⟩

/-- A type definition declares one thing at most. -/
theorem length_definitionOf_le {base : BaseType} {shape : Shape} {ds : List Declaration}
    (h : definitionOf base shape = .ok ds) : ds.length ≤ 1 := by
  unfold definitionOf at h
  split at h
  · cases h
  · split at h
    · split at h
      · cases h
        exact Nat.zero_le 1
      · cases h
        exact Nat.le_refl 1
    · split at h
      · cases h
        exact Nat.zero_le 1
      · cases base with
        | plain spelling =>
          cases h
          exact Nat.le_refl 1
        | record isUnion tag fields spelling =>
          cases h
          exact Nat.le_refl 1
        | enumeration tag items spelling =>
          cases items <;> cases h
          · exact Nat.zero_le 1
          · exact Nat.le_refl 1

/-- Any other part declares one thing at most. -/
theorem length_declarations_le {c : Content} {ds : List Declaration} (h : c.declarations = .ok ds)
    (hc : ∀ base shapes, c ≠ .declared base shapes) : ds.length ≤ 1 := by
  cases c with
  | nothing =>
    cases h
    exact Nat.zero_le 1
  | declared base shapes => exact absurd rfl (hc base shapes)
  | untyped => cases h
  | tagged base =>
    cases base with
    | plain spelling =>
      cases h
      exact Nat.zero_le 1
    | record isUnion tag fields spelling =>
      cases tag with
      | none => cases h
      | some tag =>
        cases h
        exact Nat.le_refl 1
    | enumeration tag items spelling =>
      cases h
      exact Nat.le_refl 1
  | defined base shape => exact length_definitionOf_le h

theorem isOfPart_ofContent (offset : Nat) (c : Content) (ts : List Token) :
    (Outcome.ofContent offset c ts).IsOfPart := by
  by_cases hc : ∃ base shapes, c = .declared base shapes
  · obtain ⟨base, shapes, rfl⟩ := hc
    exact Or.inr ⟨offset, base, shapes, ts, rfl⟩
  · left
    unfold Outcome.declarations
    split
    · next ds hds =>
      rw [List.length_map]
      exact length_declarations_le hds fun base shapes heq => hc ⟨base, shapes, heq⟩
    · exact Nat.zero_le 1

section Part

variable {offset stop : Nat} {c : Content} {ts : List Token}

theorem isPlaced_ofContent (hts : HaveTexts ts) (hne : ts ≠ [])
    (htwo : c.leavesSemicolon = true → 2 ≤ ts.length) :
    (Outcome.ofContent offset c ts).IsPlaced offset (offset + widthOf ts) := by
  refine .of_span rfl hts ?_ ?_ (isOfPart_ofContent offset c ts)
  · split
    · exact List.dropLast_sublist ts
    · exact List.Sublist.refl ts
  · split
    · next hleaves => exact dropLast_ne_nil (htwo hleaves)
    · exact hne

/-- A fault stands wherever its span ends before the second offset. -/
theorem arePlaced_malformed {start : Nat} {span : Span} (hle : start ≤ stop)
    (hordered : span.start ≤ span.stop) (hstop : span.stop ≤ stop) :
    ArePlaced start (malformed span) stop :=
  .single ⟨hle, hordered, hstop, fun hne => absurd rfl hne, Or.inl (Nat.zero_le 1)⟩

theorem arePlaced_malformed_spanFrom (offset : Nat) (ts : List Token) :
    ArePlaced offset (malformed (spanFrom offset ts)) (offset + widthOf ts) :=
  arePlaced_malformed (Nat.le_add_right _ _) start_le_stop_spanFrom (Nat.le_of_eq stop_spanFrom)

end Part

namespace Contents.AreReadFrom

variable {contents : Contents} {ts : List Token} {c : Content} {us : List Token}

theorem tail (h : AreReadFrom ts ((c, us) :: contents)) :
    AreReadFrom (contents.flatMap fun c => c.2) contents :=
  ⟨rfl, (List.forall_mem_cons.mp h.ne_nil).2, (List.forall_mem_cons.mp h.two_le_length).2⟩

/-- **The outcomes of contents** stand one behind the other where their tokens do. -/
theorem arePlaced_outcomesFrom (h : contents.AreReadFrom ts) (hts : HaveTexts ts)
    (offset : Nat) : ArePlaced offset (outcomesFrom offset contents) (offset + widthOf ts) := by
  induction contents generalizing ts offset with
  | nil => exact Nat.le_add_right _ _
  | cons c contents ih =>
    obtain ⟨c, us⟩ := c
    have htokens := h.tokens
    rw [List.flatMap_cons] at htokens
    subst htokens
    obtain ⟨hne, _⟩ := List.forall_mem_cons.mp h.ne_nil
    obtain ⟨htwo, _⟩ := List.forall_mem_cons.mp h.two_le_length
    refine ⟨offset + widthOf us,
      isPlaced_ofContent (hts.sublist (List.sublist_append_left _ _)) hne htwo, ?_⟩
    rw [Token.widthOf_append, ← Nat.add_assoc]
    exact ih h.tail (hts.sublist (List.sublist_append_right _ _)) _

/-- A token at the end is in the last of the contents, so the first ones do not have it. -/
theorem exists_tail {c' : Content × List Token} {last : Token}
    (h : AreReadFrom (ts ++ [last]) ((c, us) :: c' :: contents)) :
    ∃ vs, ts = us ++ vs ∧ AreReadFrom (vs ++ [last]) (c' :: contents) := by
  have htokens := h.tokens
  have htail := h.tail
  rcases List.eq_nil_or_concat ((c' :: contents).flatMap fun c => c.2) with hnil | ⟨vs, v, hvs⟩
  · have hc' := (List.forall_mem_cons.mp htail.ne_nil).1
    rw [List.flatMap_cons] at hnil
    exact absurd (List.append_eq_nil_iff.mp hnil).1 hc'
  · rw [List.concat_eq_append] at hvs
    rw [List.flatMap_cons, hvs, ← List.append_assoc] at htokens
    obtain ⟨rfl, hv⟩ := List.append_inj' htokens rfl
    cases hv
    exact ⟨vs, rfl, hvs ▸ htail⟩

/-- So do the outcomes of contents that end with a token which is not there. -/
theorem arePlaced_unfinished {last : Token} (h : contents.AreReadFrom (ts ++ [last]))
    (hts : HaveTexts (ts ++ [last])) (offset : Nat) :
    ArePlaced offset (unfinished offset contents) (offset + widthOf ts) := by
  induction contents generalizing ts offset with
  | nil => exact Nat.le_add_right _ _
  | cons c contents ih =>
    obtain ⟨c, us⟩ := c
    obtain ⟨hne, _⟩ := List.forall_mem_cons.mp h.ne_nil
    obtain ⟨htwo, _⟩ := List.forall_mem_cons.mp h.two_le_length
    cases contents with
    | nil =>
      have htokens := h.tokens
      rw [List.flatMap_singleton] at htokens
      dsimp only at htokens
      subst htokens
      rw [unfinished]
      split
      · next hleaves =>
        have hspan : (Outcome.ofContent offset c (ts ++ [last])).span = spanFrom offset ts := by
          rw [Outcome.ofContent, hleaves, if_pos rfl, List.dropLast_concat]
        have hfront : ts ≠ [] := by
          have hdrop := dropLast_ne_nil (htwo hleaves)
          rwa [List.dropLast_concat] at hdrop
        refine ⟨offset + widthOf ts, .of_span hspan (hts.sublist (List.sublist_append_left _ _))
          (List.Sublist.refl ts) hfront (isOfPart_ofContent offset c _), ?_⟩
        exact arePlaced_malformed (Nat.le_refl _) (Nat.le_refl 0) (Nat.zero_le _)
      · rw [List.dropLast_concat]
        exact arePlaced_malformed_spanFrom offset ts
    | cons c' contents =>
      obtain ⟨vs, rfl, htail⟩ := h.exists_tail
      rw [List.append_assoc] at hts
      rw [unfinished]
      · refine ⟨offset + widthOf us,
          isPlaced_ofContent (hts.sublist (List.sublist_append_left _ _)) hne htwo, ?_⟩
        rw [Token.widthOf_append, ← Nat.add_assoc]
        exact ih htail (hts.sublist (List.sublist_append_right _ _)) _
      · exact List.cons_ne_nil c' contents

end Contents.AreReadFrom

end Bindery.Header
