import Bindery.Proofs.SplitStep

/-!
# Splitting behind other items

What the splitter does with a token depends on the item that is being read, and hardly on what stands
before it: so many bytes further on, behind other items and in more blocks, it finds the same items
further on. Three things do depend on it: which item a statement goes on with, whether a brace closes
a block, and the place at which a token begins.
-/

namespace Bindery.Header

/-- The same item so many bytes further on, and in so many more blocks. -/
def Item.displaced (bytes blocks : Nat) (item : Item) : Item :=
  { item with
    nested := item.nested || decide (0 < blocks)
    start := item.start + bytes }

/-- Some tokens with more of a gap before the first one. -/
def Token.afterGap (gap : Text) : List Token → List Token
  | [] => []
  | t :: ts => { t with gap := gap ++ t.gap } :: ts

namespace Splitter

/-- The same state at another offset, in so many more blocks and behind other items, with all that
it has found and taken so many bytes further on. -/
def displaced (offset bytes blocks : Nat) (earlier : List Item) (s : Splitter) : Splitter :=
  { s with
    offset := offset
    blocks := s.blocks + blocks
    start := s.start + bytes
    items := s.items.map (Item.displaced bytes blocks) ++ earlier }

/-- The same where nothing is said of the beginning of an item that has not begun. -/
def moved (offset bytes blocks : Nat) (earlier : List Item) (s : Splitter) : Splitter :=
  { s.displaced offset bytes blocks earlier with
    start := if s.taken.isEmpty then s.start else s.start + bytes }

variable {offset bytes blocks : Nat} {earlier : List Item} {s : Splitter} {t : Token}

theorem moved_of_ne_nil (h : s.taken ≠ []) :
    s.moved offset bytes blocks earlier = s.displaced offset bytes blocks earlier := by
  rw [moved, if_neg (by rwa [List.isEmpty_iff])]
  rfl

theorem close_moved :
    (s.moved offset bytes blocks earlier).close = s.close.moved offset bytes blocks earlier := by
  cases htaken : s.taken with
  | nil => simp [close, moved, displaced, between, htaken]
  | cons t ts =>
    simp only [close, moved, displaced, between, htaken, Item.displaced, List.isEmpty_cons,
      List.isEmpty_nil, Bool.false_eq_true, if_false, if_true, List.reverse_cons, List.map_cons,
      List.cons_append, Nat.zero_add, Nat.add_pos_iff_pos_or_pos, Bool.decide_or]

theorem takeConditional_displaced (inner : List Char) :
    (s.displaced offset bytes blocks earlier).takeConditional inner t =
      (s.takeConditional inner t).moved offset bytes blocks earlier := by
  unfold takeConditional
  cases t.isDirective with
  | true =>
    simp only [if_true]
    split_ifs
    · rfl
    · split
      · exact close_moved (s := { s with taken := t :: s.taken })
      · rfl
      · rfl
    · rfl
  | false =>
    cases inner with
    | nil => rfl
    | cons c outer =>
      simp only [Bool.false_eq_true, if_false]
      split_ifs <;> rfl

theorem takeInBraces_displaced :
    (s.displaced offset bytes blocks earlier).takeInBraces t =
      (s.takeInBraces t).moved offset bytes blocks earlier := by
  have hbraces : (s.displaced offset bytes blocks earlier).braces = s.braces := rfl
  have hbody : (s.displaced offset bytes blocks earlier).body = s.body := rfl
  unfold takeInBraces
  rw [hbraces, hbody]
  split_ifs
  · rfl
  · rfl
  · exact close_moved (s := { s with taken := t :: s.taken })
  · rfl
  · rfl

theorem turn_displaced :
    (s.displaced offset bytes blocks earlier).turn t = (s.turn t).displaced offset bytes blocks earlier := by
  have hnames : (s.displaced offset bytes blocks earlier).namesOperator = s.namesOperator := rfl
  have hcalled : (s.displaced offset bytes blocks earlier).called = s.called := rfl
  unfold turn
  rw [hnames, hcalled]
  split_ifs <;> rfl

theorem taken_turn : (s.turn t).taken = s.taken := by
  unfold turn
  split_ifs <;> rfl

theorem takeOutside_displaced :
    (s.displaced offset bytes blocks earlier).takeOutside t =
      (s.takeOutside t).moved offset bytes blocks earlier := by
  have hends : (s.displaced offset bytes blocks earlier).endsAtSemicolon = s.endsAtSemicolon := rfl
  have hopens : (s.displaced offset bytes blocks earlier).opensBody = s.opensBody := rfl
  have hparenthesis : (s.displaced offset bytes blocks earlier).parenthesis = s.parenthesis := rfl
  have hparens : (s.displaced offset bytes blocks earlier).parens = s.parens := rfl
  have hheading : (s.displaced offset bytes blocks earlier).heading = s.heading := rfl
  unfold takeOutside
  rw [hends, hopens, hparenthesis, hparens, hheading]
  split_ifs
  · exact close_moved (s := { s with taken := t :: s.taken })
  · rfl
  · rfl
  · rfl
  · cases s.parens <;> rfl
  · rfl
  · rfl
  · have htaken : (turn { s with taken := t :: s.taken } t).taken ≠ [] := by
      rw [taken_turn]
      exact List.cons_ne_nil t s.taken
    exact (turn_displaced (s := { s with taken := t :: s.taken })).trans
      (moved_of_ne_nil htaken).symm

/-- A token of an item is taken where the item stands as it is elsewhere. -/
theorem take_displaced :
    (s.displaced offset bytes blocks earlier).take t = (s.take t).moved offset bytes blocks earlier := by
  have hheading : (s.displaced offset bytes blocks earlier).heading = s.heading := rfl
  have hbraces : (s.displaced offset bytes blocks earlier).braces = s.braces := rfl
  unfold take
  rw [hheading, hbraces]
  split
  · exact takeConditional_displaced _
  · split
    · exact takeInBraces_displaced
    · exact takeOutside_displaced

/-! ### Tokens between items -/

theorem before_moved {t' : Token}
    (hgap : offset + Text.byteSize t'.gap = s.offset + Text.byteSize t.gap + bytes) :
    (s.moved offset bytes blocks earlier).before t' =
      (s.before t).displaced offset bytes blocks earlier := by
  simp [before, moved, displaced, between, hgap]

/-- A token that begins an item begins the same one elsewhere, whatever the gap before it. -/
theorem begin_moved {t' : Token} (ht : t'.withoutGap = t.withoutGap)
    (hgap : offset + Text.byteSize t'.gap = s.offset + Text.byteSize t.gap + bytes) :
    (s.moved offset bytes blocks earlier).begin t' =
      (s.begin t).moved offset bytes blocks earlier := by
  have hheading : headingOf t'.withoutGap = headingOf t.withoutGap := by rw [ht]
  have hdirective : t'.withoutGap.isDirective = t.withoutGap.isDirective := by rw [ht]
  change headingOf t' = headingOf t at hheading
  change t'.isDirective = t.isDirective at hdirective
  unfold begin
  rw [before_moved hgap, hheading, hdirective, ht]
  split
  · rfl
  · split
    · exact close_moved (s := { s.before t with taken := [t.withoutGap] })
    · exact take_displaced (s := { s.before t with heading := headingOf t })

theorem resume_moved {last : Item} {others : List Item} :
    (s.moved offset bytes blocks earlier).resume (last.displaced bytes blocks)
        (others.map (Item.displaced bytes blocks) ++ earlier) t =
      (s.resume last others t).moved offset bytes blocks earlier :=
  take_displaced (s := { s.between with
    linkage := last.linkage
    items := others
    start := last.start
    taken := last.tokens.reverse
    heading := .block })

theorem stop_displaced (item : Item) :
    (item.displaced bytes blocks).stop = item.stop + bytes :=
  Nat.add_right_comm _ _ _

/-- A token between items is taken elsewhere as it is here, whatever the gap before it, but for a
brace that closes nothing here and may close a block there. Where a statement may go on, it is to
be the same one. -/
theorem open_moved {t' : Token} (ht : t'.withoutGap = t.withoutGap)
    (hgap : offset + Text.byteSize t'.gap = s.offset + Text.byteSize t.gap + bytes)
    (hnone : s.items = [] → t.isOneOf Item.continuingWords = true →
      ∀ last ∈ earlier.head?, last.mayContinue = true → last.stop ≠ offset)
    (hsome : s.items ≠ [] → t' = t ∧ offset = s.offset + bytes) :
    (s.moved offset bytes blocks earlier).open_ t' = (s.open_ t).moved offset bytes blocks earlier ∨
      0 < blocks ∧ FindsBrace (s.open_ t) := by
  by_cases hbrace : t.isMark '}' = true ∧ s.blocks = 0 ∧ 0 < blocks
  · exact Or.inr ⟨hbrace.2.2, findsBrace_open hbrace.1 hbrace.2.1⟩
  left
  have hmark : ∀ c, t'.isMark c = t.isMark c := fun c => by
    change t'.withoutGap.isMark c = t.withoutGap.isMark c
    rw [ht]
  have hcontinues : t'.isOneOf Item.continuingWords = t.isOneOf Item.continuingWords := by
    change t'.withoutGap.isOneOf _ = t.withoutGap.isOneOf _
    rw [ht]
  have hblocks : (s.moved offset bytes blocks earlier).blocks = s.blocks + blocks := rfl
  have hoffset : (s.moved offset bytes blocks earlier).offset = offset := rfl
  have hitems : (s.moved offset bytes blocks earlier).items =
    s.items.map (Item.displaced bytes blocks) ++ earlier := rfl
  unfold open_
  rw [hmark, hmark, hcontinues, hblocks, hoffset, hitems, before_moved hgap, ht]
  split_ifs with hsemicolon hclosing hopen hclosed hclosed
  · rfl
  · have hsub : s.blocks + blocks - 1 = s.blocks - 1 + blocks := by omega
    rw [hsub]
    rfl
  · exact absurd ⟨hclosing, by omega, by omega⟩ hbrace
  · exact absurd hclosed (by omega)
  · exact close_moved (s := { s.before t with taken := [t.withoutGap] })
  · cases hlist : s.items with
    | nil =>
      cases earlier with
      | nil => exact begin_moved ht hgap
      | cons last others =>
        have hlast : (t.isOneOf Item.continuingWords && last.mayContinue &&
            last.stop == offset) = false := by
          rw [Bool.eq_false_iff]
          intro h
          rw [Bool.and_eq_true, Bool.and_eq_true, beq_iff_eq] at h
          exact hnone hlist h.1.1 last rfl h.1.2 h.2
        simp only [List.map_nil, List.nil_append, hlast, Bool.false_eq_true, if_false]
        exact begin_moved ht hgap
    | cons last others =>
      obtain ⟨rfl, rfl⟩ := hsome (by rw [hlist]; exact List.cons_ne_nil last others)
      have hlast : ((last.displaced bytes blocks).stop == s.offset + bytes) =
          (last.stop == s.offset) := by
        rw [stop_displaced, Bool.eq_iff_iff, beq_iff_eq, beq_iff_eq]
        omega
      have hcontinue : (last.displaced bytes blocks).mayContinue = last.mayContinue := rfl
      simp only [List.map_cons, List.cons_append, hlast, hcontinue]
      split_ifs
      · exact resume_moved
      · exact begin_moved ht hgap

/-- A token further on is taken as it is here. -/
theorem open_moved_of_stop_lt (s : Splitter) (t : Token) (blocks : Nat)
    (hends : ∀ item ∈ earlier, item.stop < bytes) :
    (s.moved (s.offset + bytes) bytes blocks earlier).open_ t =
        (s.open_ t).moved (s.offset + bytes) bytes blocks earlier ∨
      0 < blocks ∧ FindsBrace (s.open_ t) := by
  refine open_moved rfl (Nat.add_right_comm _ _ _) (fun _ _ last hlast _ => ?_) fun _ => ⟨rfl, rfl⟩
  have hend := hends last (List.mem_of_head? hlast)
  omega

theorem acceptSettled_moved (s : Splitter) (t : Token) (blocks : Nat)
    (hends : ∀ item ∈ earlier, item.stop < bytes) :
    (s.moved (s.offset + bytes) bytes blocks earlier).acceptSettled t =
        (s.acceptSettled t).moved (s.offset + bytes) bytes blocks earlier ∨
      0 < blocks ∧ FindsBrace (s.acceptSettled t) := by
  have hclose : (s.close.moved (s.offset + bytes) bytes blocks earlier).open_ t =
        (s.close.open_ t).moved (s.offset + bytes) bytes blocks earlier ∨
      0 < blocks ∧ FindsBrace (s.close.open_ t) := by
    rw [← offset_close (s := s)]
    exact open_moved_of_stop_lt s.close t blocks hends
  have hlinkage : (s.moved (s.offset + bytes) bytes blocks earlier).atLinkage = s.atLinkage := rfl
  have htaken : (s.moved (s.offset + bytes) bytes blocks earlier).taken = s.taken := rfl
  have hbefore : (s.moved (s.offset + bytes) bytes blocks earlier).endsBefore t =
    s.endsBefore t := rfl
  have hexceed : (s.moved (s.offset + bytes) bytes blocks earlier).mayExceed t =
    s.mayExceed t := rfl
  unfold acceptSettled
  rw [hlinkage, htaken, hbefore, hexceed, close_moved]
  split_ifs with hlink hstray hmark hbrace hempty hend hextra
  · exact Or.inl rfl
  · exact hclose
  · left
    have hsum : s.blocks + blocks + 1 = s.blocks + 1 + blocks := Nat.add_right_comm _ _ _
    simp only [moved, displaced, between, hsum, List.isEmpty_nil, if_true]
  · exact open_moved_of_stop_lt { s.between with linkage := true } t blocks hends
  · exact open_moved_of_stop_lt s t blocks hends
  · left
    rw [List.isEmpty_iff] at hempty
    simp [moved, displaced, hempty]
  · exact hclose
  · left
    rw [List.isEmpty_iff] at hempty
    rw [moved_of_ne_nil hempty]
    exact take_displaced

theorem settle_moved (blocks : Nat) (hends : ∀ item ∈ earlier, item.stop < bytes)
    (h : IsBounded s.offset s) :
    (s.moved (s.offset + bytes) bytes blocks earlier).settle =
        s.settle.moved (s.offset + bytes) bytes blocks earlier ∨
      0 < blocks ∧ FindsBrace s.settle := by
  have hextra : (s.moved (s.offset + bytes) bytes blocks earlier).extra = s.extra := rfl
  have htaken : (s.moved (s.offset + bytes) bytes blocks earlier).taken = s.taken := rfl
  unfold settle
  rw [hextra, htaken]
  split
  · next u us hdoubt hlist =>
    have hwidth := h.taken
    rw [hlist, Token.widthOf] at hwidth
    let s' : Splitter := { s with offset := s.offset - u.width, taken := us, extra := false }
    have hclose : close { s.moved (s.offset + bytes) bytes blocks earlier with
        offset := s.offset + bytes - u.width, taken := us, extra := false } =
        s'.close.moved (s'.close.offset + bytes) bytes blocks earlier := by
      have hoffset : s.offset + bytes - u.width = s'.close.offset + bytes := by
        rw [offset_close]
        dsimp only [s']
        omega
      rw [← close_moved, hoffset]
      -- An item that has only the token in doubt has not begun without it.
      cases us with
      | nil => rfl
      | cons v us => simp [s', moved, displaced, hlist]
    have hopen := open_moved_of_stop_lt s'.close u blocks hends
    rw [← hclose] at hopen
    rcases hopen with hopen | hopen
    · left
      exact congrArg (fun s'' : Splitter => { s'' with offset := s.offset + bytes }) hopen
    · exact Or.inr hopen
  · exact Or.inl rfl

theorem step_moved (t : Token) (blocks : Nat) (hends : ∀ item ∈ earlier, item.stop < bytes)
    (h : IsBounded s.offset s) :
    (s.moved (s.offset + bytes) bytes blocks earlier).step t =
        (s.step t).moved ((s.step t).offset + bytes) bytes blocks earlier ∨
      0 < blocks ∧ FindsBrace (s.step t) := by
  have hstep : ∀ s' s'' : Splitter, s' = s''.moved (s.offset + bytes) bytes blocks earlier →
      { s' with offset := s.offset + bytes + t.width } =
        moved (s.offset + t.width + bytes) bytes blocks earlier
          { s'' with offset := s.offset + t.width } := by
    rintro _ s'' rfl
    rw [Nat.add_right_comm]
    rfl
  have hextra : (s.moved (s.offset + bytes) bytes blocks earlier).extra = s.extra := rfl
  unfold step accept
  rw [hextra]
  split
  · next hdoubt =>
    left
    have hne : s.taken ≠ [] := h.extra (Bool.and_eq_true_iff.mp hdoubt).1
    rw [moved_of_ne_nil hne]
    exact hstep _ _ (take_displaced (s := { s with extra := false }))
  · rcases settle_moved blocks hends h with hsettle | ⟨hblocks, hbrace⟩
    · have haccept := acceptSettled_moved s.settle t blocks hends
      rw [offset_settle, ← hsettle] at haccept
      rcases haccept with hmoved | hfound
      · exact Or.inl (hstep _ _ hmoved)
      · exact Or.inr hfound
    · exact Or.inr ⟨hblocks, hbrace.of_keeps keeps_acceptSettled⟩

/-- **A run does not look back.** So many bytes further on and behind other items, tokens are split
as they are at the beginning of a header; in more blocks too, unless a brace is found that closes
nothing. -/
theorem run_moved (hends : ∀ item ∈ earlier, item.stop < bytes) (h : IsBounded s.offset s)
    {ts : List Token} (hbrace : blocks = 0 ∨ ¬ FindsBrace (s.run ts)) :
    (s.moved (s.offset + bytes) bytes blocks earlier).run ts =
      (s.run ts).moved ((s.run ts).offset + bytes) bytes blocks earlier := by
  induction ts generalizing s with
  | nil => rfl
  | cons t ts ih =>
    rcases step_moved t blocks hends h with hstep | ⟨hblocks, hfound⟩
    · rw [run, List.foldl_cons, hstep]
      exact ih h.step hbrace
    · rcases hbrace with hnone | hnone
      · omega
      · exact absurd (hfound.of_keeps (keeps_run ts)) hnone

/-! ### Tokens behind a gap -/

theorem offset_run (ts : List Token) : (s.run ts).offset = s.offset + Token.widthOf ts := by
  induction ts generalizing s with
  | nil => rfl
  | cons t ts ih =>
    have hrun : s.run (t :: ts) = (s.step t).run ts := rfl
    rw [hrun, ih, Token.widthOf, ← Nat.add_assoc]
    rfl

/-- The state between items, behind so many bytes, in so many blocks and behind other items. -/
def behind (offset blocks : Nat) (earlier : List Item) : Splitter :=
  { offset := offset, blocks := blocks, items := earlier }

/-- A first token with more of a gap before it is taken behind other items as it is without. -/
theorem step_behind (gap : Text) (blocks : Nat)
    (hnone : t.isOneOf Item.continuingWords = true →
      ∀ last ∈ earlier.head?, last.mayContinue = true → last.stop ≠ offset) :
    (behind offset blocks earlier).step { t with gap := gap ++ t.gap } =
        (step {} t).moved ((step {} t).offset + (offset + Text.byteSize gap))
          (offset + Text.byteSize gap) blocks earlier ∨
      0 < blocks ∧ FindsBrace (step {} t) := by
  have hbehind : behind offset blocks earlier =
      moved offset (offset + Text.byteSize gap) blocks earlier {} := by
    simp [behind, moved, displaced]
  have hopen : (behind offset blocks earlier).open_ { t with gap := gap ++ t.gap } =
        (open_ {} t).moved offset (offset + Text.byteSize gap) blocks earlier ∨
      0 < blocks ∧ FindsBrace (open_ {} t) := by
    rw [hbehind]
    refine open_moved rfl ?_ (fun _ => hnone) (fun h => absurd rfl h)
    simp only [Text.byteSize_append]
    omega
  rcases hopen with hopen | hopen
  · left
    have hstep : (behind offset blocks earlier).step { t with gap := gap ++ t.gap } =
        { (behind offset blocks earlier).open_ { t with gap := gap ++ t.gap } with
          offset := offset + Token.width { t with gap := gap ++ t.gap } } := rfl
    have hoffset : offset + Token.width { t with gap := gap ++ t.gap } =
        (step {} t).offset + (offset + Text.byteSize gap) := by
      have hzero : (step {} t).offset = 0 + t.width := rfl
      simp only [hzero, Token.width, Text.byteSize_append]
      omega
    rw [hstep, hopen, hoffset]
    rfl
  · exact Or.inr hopen

/-- Tokens with more of a gap before the first one are split behind other items as they are
without. -/
theorem run_behind {gap : Text} (ts : List Token) (hgap : 0 < Text.byteSize gap)
    (hends : ∀ item ∈ earlier, item.stop ≤ offset)
    (hnone : ∀ t ∈ ts.head?, t.isOneOf Item.continuingWords = true →
      ∀ last ∈ earlier.head?, last.mayContinue = true → last.stop ≠ offset)
    (hbrace : blocks = 0 ∨ ¬ FindsBrace (run {} ts)) :
    ∃ stop, (behind offset blocks earlier).run (Token.afterGap gap ts) =
        (run {} ts).moved stop (offset + Text.byteSize gap) blocks earlier ∧
      (ts ≠ [] → stop = (run {} ts).offset + (offset + Text.byteSize gap)) := by
  cases ts with
  | nil =>
    exact ⟨offset, by simp [Token.afterGap, run, behind, moved, displaced], (absurd rfl ·)⟩
  | cons t ts =>
    have hrun : (run {} (t :: ts)) = (step {} t).run ts := rfl
    refine ⟨_, ?_, fun _ => rfl⟩
    rcases step_behind gap blocks (hnone t rfl) with hstep | ⟨hblocks, hfound⟩
    · rw [Token.afterGap, run, List.foldl_cons, hstep]
      refine run_moved (fun item hitem => ?_) (IsBounded.step isBounded_empty) hbrace
      have hend := hends item hitem
      omega
    · rcases hbrace with hzero | hnone
      · omega
      · exact absurd (hfound.of_keeps (keeps_run ts)) hnone

/-- The items of tokens behind other items are those that they have without. -/
theorem close_run_behind {gap : Text} (ts : List Token) (hgap : 0 < Text.byteSize gap)
    (hends : ∀ item ∈ earlier, item.stop ≤ offset)
    (hnone : ∀ t ∈ ts.head?, t.isOneOf Item.continuingWords = true →
      ∀ last ∈ earlier.head?, last.mayContinue = true → last.stop ≠ offset)
    (hbrace : blocks = 0 ∨ ¬ FindsBrace (run {} ts).settle.close) :
    ∃ stop, ((behind offset blocks earlier).run (Token.afterGap gap ts)).settle.close =
      (run {} ts).settle.close.moved stop (offset + Text.byteSize gap) blocks earlier := by
  have hkeeps : Keeps (run {} ts) (run {} ts).settle.close := keeps_settle.trans keeps_close
  obtain ⟨stop, hrun, hstop⟩ :=
    run_behind ts hgap hends hnone (hbrace.imp_right fun h hfound => h (hfound.of_keeps hkeeps))
  rw [hrun]
  cases ts with
  | nil => exact ⟨stop, close_moved (s := {})⟩
  | cons t ts =>
    obtain rfl := hstop (List.cons_ne_nil t ts)
    have hlt : ∀ item ∈ earlier, item.stop < offset + Text.byteSize gap := fun item hitem => by
      have hend := hends item hitem
      omega
    refine ⟨(run {} (t :: ts)).offset + (offset + Text.byteSize gap), ?_⟩
    rcases settle_moved blocks hlt
        (IsBounded.run (s := {}) isBounded_empty (t :: ts)) with
      hsettle | ⟨hblocks, hfound⟩
    · rw [hsettle, close_moved]
    · rcases hbrace with hzero | hnone
      · omega
      · exact absurd (hfound.of_keeps keeps_close) hnone

end Splitter

end Bindery.Header
