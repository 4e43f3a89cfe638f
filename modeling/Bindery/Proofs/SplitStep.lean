import Bindery.Proofs.Splitting
import Mathlib.Tactic.SplitIfs

/-!
# Steps of the splitter

What one token can do: it goes on with the item being read or ends it, and all else follows from
that. No item that has been found is lost, but for a statement that another token goes on with. All
that has been found and taken ends before the bytes that have been taken. And a brace that closes
nothing is found as an item of its own.
-/

namespace Bindery.Header

/-- Whether an item is a closing brace alone. -/
def Item.isBrace (item : Item) : Bool :=
  match item.tokens with
  | [t] => t.isMark '}'
  | _ => false

/-- No statement goes on behind a brace alone. -/
theorem Item.mayContinue_of_isBrace {item : Item} (h : item.isBrace = true) :
    item.mayContinue = false := by
  unfold isBrace at h
  split at h
  · next t htokens =>
    have hword : t.isWord = false := by
      rw [Token.isWord, Token.kind_of_isMark h]
      rfl
    rw [mayContinue, htokens, List.any_cons, List.any_nil, Token.isOneOf, hword]
    rfl
  · cases h

namespace Splitter

variable {s : Splitter} {t : Token}

/-! ### Tokens of an item -/

/-- A state goes on with the item of another one, of which it has one token more. -/
structure GoesOn (s : Splitter) (t : Token) (s' : Splitter) : Prop where
  /-- It has taken as many bytes. -/
  offset : s'.offset = s.offset
  /-- It is in as many blocks. -/
  blocks : s'.blocks = s.blocks
  /-- The item begins at the same place. -/
  start : s'.start = s.start
  /-- The item has the token. -/
  taken : s'.taken = t :: s.taken
  /-- It is as much in doubt. -/
  extra : s'.extra = s.extra
  /-- No item has been found. -/
  items : s'.items = s.items

/-- A token that is taken into an item goes on with it or ends it. -/
theorem goesOn_or_eq_close (s : Splitter) (t : Token) :
    GoesOn s t (s.take t) ∨ s.take t = { s with taken := t :: s.taken }.close := by
  have hturn : GoesOn s t (turn { s with taken := t :: s.taken } t) := by
    unfold turn
    split_ifs <;> exact ⟨rfl, rfl, rfl, rfl, rfl, rfl⟩
  unfold take
  split
  · next inner _ =>
    unfold takeConditional
    cases t.isDirective with
    | true =>
      rw [if_pos rfl]
      split_ifs
      · exact Or.inl ⟨rfl, rfl, rfl, rfl, rfl, rfl⟩
      · split
        · exact Or.inr rfl
        · exact Or.inl ⟨rfl, rfl, rfl, rfl, rfl, rfl⟩
        · exact Or.inl ⟨rfl, rfl, rfl, rfl, rfl, rfl⟩
      · exact Or.inl ⟨rfl, rfl, rfl, rfl, rfl, rfl⟩
    | false =>
      rw [if_neg Bool.false_ne_true]
      cases inner with
      | nil => exact Or.inl ⟨rfl, rfl, rfl, rfl, rfl, rfl⟩
      | cons c outer =>
        dsimp only
        split_ifs <;> exact Or.inl ⟨rfl, rfl, rfl, rfl, rfl, rfl⟩
  · split
    · unfold takeInBraces
      split_ifs
      · exact Or.inl ⟨rfl, rfl, rfl, rfl, rfl, rfl⟩
      · exact Or.inl ⟨rfl, rfl, rfl, rfl, rfl, rfl⟩
      · exact Or.inr rfl
      · exact Or.inl ⟨rfl, rfl, rfl, rfl, rfl, rfl⟩
      · exact Or.inl ⟨rfl, rfl, rfl, rfl, rfl, rfl⟩
    · unfold takeOutside
      split_ifs
      · exact Or.inr rfl
      · exact Or.inl ⟨rfl, rfl, rfl, rfl, rfl, rfl⟩
      · exact Or.inl ⟨rfl, rfl, rfl, rfl, rfl, rfl⟩
      · exact Or.inl ⟨rfl, rfl, rfl, rfl, rfl, rfl⟩
      · split <;> exact Or.inl ⟨rfl, rfl, rfl, rfl, rfl, rfl⟩
      · exact Or.inl ⟨rfl, rfl, rfl, rfl, rfl, rfl⟩
      · exact Or.inl ⟨rfl, rfl, rfl, rfl, rfl, rfl⟩
      · exact Or.inl hturn

/-! ### Items that stay -/

/-- No item is lost, but for one that a statement goes on with. -/
def Keeps (s s' : Splitter) : Prop :=
  ∀ item ∈ s.items, item.mayContinue = false → item ∈ s'.items

theorem Keeps.trans {s' s'' : Splitter} (h : Keeps s s') (h' : Keeps s' s'') : Keeps s s'' :=
  fun item hitem hends => h' item (h item hitem hends) hends

theorem keeps_close : Keeps s s.close := by
  intro item hitem _
  unfold close
  split
  · exact hitem
  · exact List.mem_cons_of_mem _ hitem

theorem keeps_take : Keeps s (s.take t) := by
  intro item hitem hends
  rcases goesOn_or_eq_close s t with h | h
  · rwa [h.items]
  · rw [h]
    exact keeps_close item hitem hends

theorem keeps_begin : Keeps s (s.begin t) := by
  intro item hitem hends
  unfold begin
  split
  · exact hitem
  · split
    · exact keeps_close item hitem hends
    · exact keeps_take item hitem hends

theorem keeps_open : Keeps s (s.open_ t) := by
  intro item hitem hends
  unfold open_
  split_ifs
  · exact hitem
  · exact hitem
  · exact keeps_close item hitem hends
  · split
    · next last others hitems =>
      split
      · next hlast =>
        rw [Bool.and_eq_true, Bool.and_eq_true] at hlast
        rw [hitems] at hitem
        rcases List.mem_cons.mp hitem with rfl | hother
        · rw [hlast.1.2] at hends
          cases hends
        · exact keeps_take item hother hends
      · exact keeps_begin item hitem hends
    · exact keeps_begin item hitem hends

theorem keeps_acceptSettled : Keeps s (s.acceptSettled t) := by
  intro item hitem hends
  unfold acceptSettled
  split_ifs
  · exact hitem
  · exact keeps_open item (keeps_close item hitem hends) hends
  · exact hitem
  · exact keeps_open item hitem hends
  · exact keeps_open item hitem hends
  · exact hitem
  · exact keeps_open item (keeps_close item hitem hends) hends
  · exact keeps_take item hitem hends

theorem keeps_settle : Keeps s s.settle := by
  intro item hitem hends
  unfold settle
  split
  · exact keeps_open item (keeps_close item hitem hends) hends
  · exact hitem

theorem keeps_step : Keeps s (s.step t) := by
  intro item hitem hends
  have haccept : item ∈ (s.accept t).items := by
    unfold accept
    split
    · exact keeps_take item hitem hends
    · exact keeps_acceptSettled item (keeps_settle item hitem hends) hends
  exact haccept

/-- A run loses no item, but for those that a statement goes on with. -/
theorem keeps_run (ts : List Token) : Keeps s (s.run ts) := by
  induction ts generalizing s with
  | nil => exact fun _ hitem _ => hitem
  | cons t ts ih => exact keeps_step.trans ih

/-! ### Places -/

/-- All that has been found and taken ends before so many bytes. -/
structure IsBounded (k : Nat) (s : Splitter) : Prop where
  /-- The items do. -/
  items : ∀ item ∈ s.items, item.stop ≤ k
  /-- The tokens of the item being read do. -/
  taken : s.start + Token.widthOf s.taken ≤ k
  /-- A token in doubt is one of them. -/
  extra : s.extra = true → s.taken ≠ []

variable {k : Nat}

theorem IsBounded.close (h : IsBounded k s) : IsBounded k s.close := by
  have hstart : 0 + Token.widthOf [] ≤ k := Nat.zero_le k
  unfold Splitter.close
  split
  · exact ⟨h.items, hstart, (absurd · Bool.false_ne_true)⟩
  · refine ⟨List.forall_mem_cons.mpr ⟨?_, h.items⟩, hstart, (absurd · Bool.false_ne_true)⟩
    rw [Item.stop, Token.widthOf_reverse]
    exact h.taken

theorem isBounded_take (hitems : ∀ item ∈ s.items, item.stop ≤ k)
    (hstart : s.start + Token.widthOf s.taken + t.width ≤ k) : IsBounded k (s.take t) := by
  have hwidth : s.start + Token.widthOf (t :: s.taken) ≤ k := by
    rw [Token.widthOf]
    omega
  rcases goesOn_or_eq_close s t with h | h
  · refine ⟨?_, ?_, fun _ => ?_⟩
    · rwa [h.items]
    · rwa [h.start, h.taken]
    · rw [h.taken]
      exact List.cons_ne_nil t s.taken
  · rw [h]
    exact IsBounded.close ⟨hitems, hwidth, fun _ => List.cons_ne_nil t s.taken⟩

theorem isBounded_begin (hk : s.offset + t.width = k) (hitems : ∀ item ∈ s.items, item.stop ≤ k) :
    IsBounded k (s.begin t) := by
  have hwidth : s.offset + Text.byteSize t.gap + Token.widthOf [] + t.withoutGap.width ≤ k := by
    simp only [Token.widthOf, Token.width, Token.withoutGap, Text.byteSize_nil] at hk ⊢
    omega
  have hsingle : s.offset + Text.byteSize t.gap + Token.widthOf [t.withoutGap] ≤ k := by
    simpa [Token.widthOf] using hwidth
  unfold begin
  split
  · exact ⟨hitems, hsingle, (absurd · Bool.false_ne_true)⟩
  · split
    · exact IsBounded.close ⟨hitems, hsingle, (absurd · Bool.false_ne_true)⟩
    · exact isBounded_take hitems hwidth

theorem isBounded_open (hk : s.offset + t.width = k) (hitems : ∀ item ∈ s.items, item.stop ≤ k) :
    IsBounded k (s.open_ t) := by
  have hstart : 0 + Token.widthOf [] ≤ k := Nat.zero_le k
  unfold open_
  split_ifs
  · exact ⟨hitems, hstart, (absurd · Bool.false_ne_true)⟩
  · exact ⟨hitems, hstart, (absurd · Bool.false_ne_true)⟩
  · refine IsBounded.close ⟨hitems, ?_, (absurd · Bool.false_ne_true)⟩
    simp only [before, Token.widthOf, Token.width, Token.withoutGap, Text.byteSize_nil] at hk ⊢
    omega
  · split
    · next last others hlist =>
      split
      · next hlast =>
        -- The statement that goes on ends where the token begins.
        rw [Bool.and_eq_true, beq_iff_eq] at hlast
        have hstop : last.start + Token.widthOf last.tokens.reverse + t.width ≤ k := by
          rw [Token.widthOf_reverse]
          exact Nat.le_of_eq ((congrArg (· + t.width) hlast.2).trans hk)
        exact isBounded_take (fun item hitem => hitems item (hlist ▸ List.mem_cons_of_mem _ hitem))
          hstop
      · exact isBounded_begin hk hitems
    · exact isBounded_begin hk hitems

theorem offset_close : s.close.offset = s.offset := by
  unfold Splitter.close
  split <;> rfl

theorem IsBounded.acceptSettled (h : IsBounded s.offset s) :
    IsBounded (s.offset + t.width) (s.acceptSettled t) := by
  have hle : s.offset ≤ s.offset + t.width := Nat.le_add_right _ _
  have hitems : ∀ item ∈ s.items, item.stop ≤ s.offset + t.width := fun item hitem =>
    Nat.le_trans (h.items item hitem) hle
  have hclose : IsBounded (s.offset + t.width) (s.close.open_ t) :=
    isBounded_open (by rw [offset_close]) fun item hitem =>
      Nat.le_trans (h.close.items item hitem) hle
  have hstart : 0 + Token.widthOf [] ≤ s.offset + t.width := Nat.zero_le _
  have htaken : s.start + Token.widthOf s.taken + t.width ≤ s.offset + t.width :=
    Nat.add_le_add_right h.taken t.width
  unfold Splitter.acceptSettled
  split_ifs
  · exact ⟨hitems, Nat.le_trans h.taken hle, h.extra⟩
  · exact hclose
  · exact ⟨hitems, hstart, (absurd · Bool.false_ne_true)⟩
  · exact isBounded_open (s := { s.between with linkage := true }) rfl hitems
  · exact isBounded_open rfl hitems
  · refine ⟨hitems, ?_, fun _ => List.cons_ne_nil t s.taken⟩
    simp only [Token.widthOf]
    omega
  · exact hclose
  · exact isBounded_take hitems htaken

theorem offset_settle : s.settle.offset = s.offset := by
  unfold settle
  split <;> rfl

theorem IsBounded.settle (h : IsBounded s.offset s) : IsBounded s.offset s.settle := by
  unfold Splitter.settle
  split
  · next u us hextra htaken =>
    have hwidth := h.taken
    rw [htaken, Token.widthOf] at hwidth
    let s' : Splitter := { s with offset := s.offset - u.width, taken := us, extra := false }
    have hshort : IsBounded s.offset s' := ⟨h.items, by dsimp only [s']; omega, (absurd · Bool.false_ne_true)⟩
    have hopen : IsBounded s.offset (s'.close.open_ u) :=
      isBounded_open (by rw [offset_close]; dsimp only [s']; omega) hshort.close.items
    exact ⟨hopen.items, hopen.taken, hopen.extra⟩
  · exact h

theorem IsBounded.step (h : IsBounded s.offset s) : IsBounded (s.step t).offset (s.step t) := by
  have haccept : IsBounded (s.offset + t.width) (s.accept t) := by
    unfold accept
    split
    · exact isBounded_take
        (fun item hitem => Nat.le_trans (h.items item hitem) (Nat.le_add_right _ _))
        (Nat.add_le_add_right h.taken t.width)
    · have hsettle := h.settle
      rw [← offset_settle] at hsettle ⊢
      exact hsettle.acceptSettled
  exact ⟨haccept.items, haccept.taken, haccept.extra⟩

/-- In a run all that is found and taken ends before the bytes that have been taken. -/
theorem IsBounded.run (h : IsBounded s.offset s) (ts : List Token) :
    IsBounded (s.run ts).offset (s.run ts) := by
  induction ts generalizing s with
  | nil => exact h
  | cons t ts ih => exact ih h.step

theorem isBounded_empty : IsBounded 0 {} :=
  ⟨fun _ hitem => absurd hitem List.not_mem_nil, Nat.le_refl 0, (absurd · Bool.false_ne_true)⟩

/-! ### Braces that close nothing -/

/-- A brace alone has been found as an item: it closes nothing. -/
def FindsBrace (s : Splitter) : Prop := ∃ item ∈ s.items, item.isBrace = true

theorem FindsBrace.of_keeps {s' : Splitter} (h : FindsBrace s) (hkeeps : Keeps s s') :
    FindsBrace s' := by
  obtain ⟨item, hitem, hbrace⟩ := h
  exact ⟨item, hkeeps item hitem (Item.mayContinue_of_isBrace hbrace), hbrace⟩

theorem findsBrace_open (hclosing : t.isMark '}' = true) (hblocks : s.blocks = 0) :
    FindsBrace (s.open_ t) := by
  have hsemicolon := Token.isMark_eq_false hclosing (show '}' ≠ ';' by decide)
  rw [open_, hsemicolon, hclosing, hblocks]
  exact ⟨_, List.mem_cons_self, hclosing⟩

end Splitter

end Bindery.Header
