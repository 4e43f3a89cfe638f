import Bindery.Proofs.Meaning
import Bindery.Proofs.Visit

/-!
# Where comments go

A text that a marker brings waits until another one replaces it or a declaration takes it. So what
waits at a place is known from the declarations before it, and every text that is brought becomes
the comment of at most one declaration, the next one that takes comments.
-/

namespace Bindery

/-- Only an empty text has no lines. -/
theorem Text.lines_eq_nil_iff {t : Text} : lines t = [] ↔ t = [] := by
  constructor
  · intro h
    cases t with
    | nil => rfl
    | cons c t =>
      obtain ⟨piece, pieces, hsplit⟩ := List.exists_cons_of_ne_nil (List.splitOn_ne_nil '\n' t)
      rw [lines, List.splitOn_cons_eq_if_modifyHead, hsplit] at h
      split at h
      · cases h
      · cases pieces <;> cases h
  · rintro rfl
    rfl

/-- Only the comment of an empty text is empty. -/
theorem comment_eq_nil_iff {indent : Nat} {t : Text} : comment indent t = [] ↔ t = [] := by
  have hmark : commentMark ≠ [] := by
    rw [commentMark, Text.ofString_eq]
    exact nofun
  refine Iff.trans ?_ Text.lines_eq_nil_iff
  unfold comment
  cases Text.lines t with
  | nil => simp
  | cons line rest => cases rest <;> simp [hmark]

/-- The comment on a declaration that takes a text: its lines, if it has any. -/
def commentOn? (t : Text) : Option Text := if t = [] then none else some (comment commentIndent t)

/-- A declaration that takes what waits gets the comment of that text. -/
theorem declarationComment?_eq (pending : Option Text) :
    declarationComment? pending = pending.bind commentOn? := by
  cases pending with
  | none => rfl
  | some t =>
    unfold declarationComment? commentOn?
    by_cases ht : t = []
    · simp [ht, comment_eq_nil_iff.mpr]
    · have hcomment : comment commentIndent t ≠ [] := mt comment_eq_nil_iff.mp ht
      simp [ht, hcomment]

section Places

variable (corpus : Corpus) (options : GenerationOptions) (ls : List Located)

/-- The marker at a place brings a text. -/
def BringsAt (j : Nat) (t : Text) : Prop := ∃ l, ls[j]? = some l ∧ l.declaration.Brings corpus t

/-- The declaration at a place succeeds and takes comments. -/
def TakesAt (i : Nat) : Prop :=
  ∃ l blocks, ls[i]? = some l ∧ l.declaration.takesComment options.unionMode = true ∧
    (generate corpus options (ls.take i)).outcome corpus options.unionMode l = .ok blocks

/-- The text that a marker brings still waits at a later place. -/
structure WaitsAt (j i : Nat) (t : Text) : Prop where
  /-- The marker brings the text. -/
  brings : BringsAt corpus ls j t
  /-- The place is behind the marker. -/
  lt : j < i
  /-- No marker in between brings another text. -/
  unreplaced : ∀ k, j < k → k < i → ∀ t', ¬ BringsAt corpus ls k t'
  /-- No declaration in between takes the text. -/
  untaken : ∀ k, j < k → k < i → ¬ TakesAt corpus options ls k

/-- The text that a marker brings waits where a declaration takes comments. -/
def Attached (j i : Nat) : Prop :=
  TakesAt corpus options ls i ∧ ∃ t, WaitsAt corpus options ls j i t

end Places

section Runs

variable {corpus : Corpus} {options : GenerationOptions} {ls : List Located} {i j k : Nat}
  {t : Text}

/-- Behind a marker the text that it brings waits. -/
theorem BringsAt.pending_succ (h : BringsAt corpus ls i t) :
    (generate corpus options (ls.take (i + 1))).context.pending = some t := by
  obtain ⟨l, hl, hbrings⟩ := h
  rw [generate_take_succ hl, Generation.visit_of_ok hbrings.ofDeclaration]
  rfl

/-- Behind a declaration that takes comments nothing waits. -/
theorem TakesAt.pending_succ (h : TakesAt corpus options ls i) :
    (generate corpus options (ls.take (i + 1))).context.pending = none := by
  obtain ⟨l, blocks, hl, htakes, hok⟩ := h
  obtain ⟨meaning, hmeaning, _⟩ := Generation.outcome_eq_ok_iff.mp hok
  rw [← (meant_of_ofDeclaration hmeaning).takesComment_eq] at htakes
  have hdoc : ∀ t, meaning ≠ .documentation t := by
    rintro t rfl
    cases htakes
  rw [generate_take_succ hl, Generation.visit_of_ok hmeaning, Context.pending_apply hdoc,
    if_pos htakes]

/-- Behind any other declaration the same waits as before it. -/
theorem pending_succ (hbrings : ∀ t, ¬ BringsAt corpus ls i t)
    (htakes : ¬ TakesAt corpus options ls i) :
    (generate corpus options (ls.take (i + 1))).context.pending =
      (generate corpus options (ls.take i)).context.pending := by
  cases hl : ls[i]? with
  | none => rw [List.take_add_one, hl, Option.toList_none, List.append_nil]
  | some l =>
    rw [generate_take_succ hl]
    cases hmeaning : Meaning.ofDeclaration corpus options.unionMode
        (generate corpus options (ls.take i)).context.handles l.declaration with
    | error fault => rw [Generation.visit_of_error hmeaning]
    | ok meaning =>
      have hmeant := meant_of_ofDeclaration hmeaning
      have hdoc : ∀ t, meaning ≠ .documentation t := by
        rintro t rfl
        exact hbrings t ⟨l, hl, hmeant.brings⟩
      have hnot : ¬ meaning.takesComment = true := by
        rw [hmeant.takesComment_eq]
        intro h
        exact htakes ⟨l, _, hl, h, Generation.outcome_eq_ok_iff.mpr ⟨meaning, hmeaning, rfl⟩⟩
      rw [Generation.visit_of_ok hmeaning, Context.pending_apply hdoc, if_neg hnot]

/-- A marker takes nothing. -/
theorem BringsAt.not_takesAt (h : BringsAt corpus ls i t) : ¬ TakesAt corpus options ls i := by
  intro htakes
  have hsome : (generate corpus options (ls.take (i + 1))).context.pending = some t :=
    h.pending_succ
  rw [htakes.pending_succ] at hsome
  cases hsome

/-- What waits behind a declaration has just been brought, or waits before it too. -/
theorem waitsAt_succ_iff : WaitsAt corpus options ls j (i + 1) t ↔
    j = i ∧ BringsAt corpus ls i t ∨ WaitsAt corpus options ls j i t ∧
      (∀ t', ¬ BringsAt corpus ls i t') ∧ ¬ TakesAt corpus options ls i := by
  constructor
  · intro h
    rcases Nat.lt_succ_iff_lt_or_eq.mp h.lt with hlt | rfl
    · refine Or.inr ⟨⟨h.brings, hlt, ?_, ?_⟩, ?_, ?_⟩
      · exact fun k hj hi => h.unreplaced k hj (by omega)
      · exact fun k hj hi => h.untaken k hj (by omega)
      · exact h.unreplaced i hlt (by omega)
      · exact h.untaken i hlt (by omega)
    · exact Or.inl ⟨rfl, h.brings⟩
  · rintro (⟨rfl, hbrings⟩ | ⟨h, hbrings, htakes⟩)
    · exact ⟨hbrings, by omega, fun k hj hi => by omega, fun k hj hi => by omega⟩
    · refine ⟨h.brings, Nat.lt_succ_of_lt h.lt, ?_, ?_⟩
      · intro k hj hk
        rcases Nat.lt_succ_iff_lt_or_eq.mp hk with hk | rfl
        · exact h.unreplaced k hj hk
        · exact hbrings
      · intro k hj hk
        rcases Nat.lt_succ_iff_lt_or_eq.mp hk with hk | rfl
        · exact h.untaken k hj hk
        · exact htakes

/-- At every place of a run the text waits that was brought last, unless it has been taken. -/
theorem pending_eq_some_iff {i : Nat} {t : Text} :
    (generate corpus options (ls.take i)).context.pending = some t ↔
      ∃ j, WaitsAt corpus options ls j i t := by
  induction i generalizing t with
  | zero =>
    constructor
    · intro h
      cases h
    · rintro ⟨j, h⟩
      exact absurd h.lt (Nat.not_lt_zero j)
  | succ i ih =>
    simp only [waitsAt_succ_iff]
    -- The declaration at `i` brings a text, takes what waits, or leaves things as they are.
    by_cases hbrings : ∃ t', BringsAt corpus ls i t'
    · obtain ⟨t', ht'⟩ := hbrings
      rw [ht'.pending_succ, Option.some.injEq]
      constructor
      · rintro rfl
        exact ⟨i, Or.inl ⟨rfl, ht'⟩⟩
      · rintro ⟨j, ⟨_, ht⟩ | ⟨_, hnone, _⟩⟩
        · have hsame : (generate corpus options (ls.take (i + 1))).context.pending = some t :=
            ht.pending_succ
          rw [ht'.pending_succ] at hsame
          exact Option.some.inj hsame
        · exact absurd ht' (hnone t')
    · have hnone : ∀ t', ¬ BringsAt corpus ls i t' := fun t' ht' => hbrings ⟨t', ht'⟩
      by_cases htakes : TakesAt corpus options ls i
      · rw [htakes.pending_succ]
        constructor
        · intro h
          cases h
        · rintro ⟨j, ⟨_, ht⟩ | ⟨_, _, h⟩⟩
          · exact absurd ht (hnone t)
          · exact absurd htakes h
      · rw [pending_succ hnone htakes, ih]
        constructor
        · rintro ⟨j, h⟩
          exact ⟨j, Or.inr ⟨h, hnone, htakes⟩⟩
        · rintro ⟨j, ⟨_, ht⟩ | ⟨h, _, _⟩⟩
          · exact absurd ht (hnone t)
          · exact ⟨j, h⟩

/-- A text is attached once, where it is taken first. -/
theorem Attached.eq_of_marker {i' : Nat} (h : Attached corpus options ls j i)
    (h' : Attached corpus options ls j i') : i = i' := by
  obtain ⟨htakes, t, hwaits⟩ := h
  obtain ⟨htakes', t', hwaits'⟩ := h'
  rcases Nat.lt_trichotomy i i' with hlt | heq | hgt
  · exact absurd htakes (hwaits'.untaken i hwaits.lt hlt)
  · exact heq
  · exact absurd htakes' (hwaits.untaken i' hwaits'.lt hgt)

/-- A declaration has one text attached, the one that was brought last. -/
theorem Attached.eq_of_taker {j' : Nat} (h : Attached corpus options ls j i)
    (h' : Attached corpus options ls j' i) : j = j' := by
  obtain ⟨_, t, hwaits⟩ := h
  obtain ⟨_, t', hwaits'⟩ := h'
  rcases Nat.lt_trichotomy j j' with hlt | heq | hgt
  · exact absurd hwaits'.brings (hwaits.unreplaced j' hlt hwaits'.lt t')
  · exact heq
  · exact absurd hwaits.brings (hwaits'.unreplaced j hgt hwaits.lt t)

/-- A text that is replaced before it is taken is never attached. -/
theorem not_attached_of_replaced (hbrings : BringsAt corpus ls k t) (hlt : j < k)
    (huntaken : ∀ x, j < x → x < k → ¬ TakesAt corpus options ls x) (i : Nat) :
    ¬ Attached corpus options ls j i := by
  rintro ⟨htakes, t', hwaits⟩
  rcases Nat.lt_trichotomy i k with hik | rfl | hki
  · exact huntaken i hwaits.lt hik htakes
  · exact hbrings.not_takesAt htakes
  · exact hwaits.unreplaced k hlt hki t hbrings

/-- What a declaration that has a meaning writes: it has a comment exactly where it takes comments
and a text waits that says something, and then that comment stands in its group. -/
theorem exists_comment {l : Located} {meaning : Meaning} (hl : ls[i]? = some l)
    (hmeaning : Meaning.ofDeclaration corpus options.unionMode
      (generate corpus options (ls.take i)).context.handles l.declaration = .ok meaning) :
    ∃ c? : Option Text,
      (generate corpus options (ls.take (i + 1))).output =
        (generate corpus options (ls.take i)).output.emit
          (generate corpus options (ls.take (i + 1))).context.destination (meaning.blocks c?) ∧
      (∀ c, c? = some c ↔ ∃ j t, TakesAt corpus options ls i ∧
        WaitsAt corpus options ls j i t ∧ t ≠ [] ∧ c = comment commentIndent t) ∧
      ∀ c, c? = some c → c <:+: Output.groupText (meaning.blocks c?) := by
  have hmeant := meant_of_ofDeclaration hmeaning
  have houtcome := Generation.outcome_eq_ok_iff.mpr ⟨meaning, hmeaning, rfl⟩
  have htakes : TakesAt corpus options ls i ↔
      l.declaration.takesComment options.unionMode = true := by
    constructor
    · rintro ⟨l', _, hl', htakes, _⟩
      rw [hl, Option.some.injEq] at hl'
      rw [hl']
      exact htakes
    · intro htakes
      exact ⟨l, _, hl, htakes, houtcome⟩
  refine ⟨if l.declaration.takesComment options.unionMode then
    (generate corpus options (ls.take i)).context.pending.bind commentOn? else none, ?_, ?_, ?_⟩
  · rw [generate_take_succ hl, Generation.visit_of_ok hmeaning, ← hmeant.takesComment_eq,
      ← declarationComment?_eq, ← Context.fst_apply]
  · intro c
    simp only [htakes, Option.ite_none_right_eq_some, Option.bind_eq_some_iff, commentOn?,
      Option.ite_none_left_eq_some, Option.some.injEq, pending_eq_some_iff]
    constructor
    · rintro ⟨htake, t, ⟨j, hwaits⟩, hne, rfl⟩
      exact ⟨j, t, htake, hwaits, hne, rfl⟩
    · rintro ⟨j, t, htake, hwaits, hne, rfl⟩
      exact ⟨htake, t, ⟨j, hwaits⟩, hne, rfl⟩
  · intro c hc
    rw [hc]
    have htake : l.declaration.takesComment options.unionMode = true := by
      by_contra hnot
      rw [if_neg hnot] at hc
      cases hc
    exact hmeant.comment_infix htake c

end Runs

/-- The text that waits before a declaration is the one that was brought last, unless it has been
taken since. A declaration is written with the comment of that text if it takes comments, and
without one otherwise; one that fails writes nothing. So a text becomes the comment of at most one
declaration, a declaration has the text of at most one marker, and a text that is replaced before
it is taken becomes no comment at all. -/
theorem generate_attaches_comments (corpus : Corpus) (options : GenerationOptions)
    (ls : List Located) :
    (∀ i t, (generate corpus options (ls.take i)).context.pending = some t ↔
      ∃ j, WaitsAt corpus options ls j i t) ∧
    (∀ i l meaning, ls[i]? = some l →
      Meaning.ofDeclaration corpus options.unionMode
        (generate corpus options (ls.take i)).context.handles l.declaration = .ok meaning →
      ∃ c? : Option Text,
        (generate corpus options (ls.take (i + 1))).output =
          (generate corpus options (ls.take i)).output.emit
            (generate corpus options (ls.take (i + 1))).context.destination
            (meaning.blocks c?) ∧
        (∀ c, c? = some c ↔ ∃ j t, TakesAt corpus options ls i ∧
          WaitsAt corpus options ls j i t ∧ t ≠ [] ∧ c = comment commentIndent t) ∧
        ∀ c, c? = some c → c <:+: Output.groupText (meaning.blocks c?)) ∧
    (∀ i l fault, ls[i]? = some l →
      Meaning.ofDeclaration corpus options.unionMode
        (generate corpus options (ls.take i)).context.handles l.declaration = .error fault →
      (generate corpus options (ls.take (i + 1))).output =
        (generate corpus options (ls.take i)).output) ∧
    (∀ j i i', Attached corpus options ls j i → Attached corpus options ls j i' → i = i') ∧
    (∀ j j' i, Attached corpus options ls j i → Attached corpus options ls j' i → j = j') ∧
    ∀ j k t, BringsAt corpus ls k t → j < k →
      (∀ x, j < x → x < k → ¬ TakesAt corpus options ls x) →
      ∀ i, ¬ Attached corpus options ls j i := by
  refine ⟨fun i t => pending_eq_some_iff, fun i l meaning => exists_comment, ?_,
    fun j i i' => Attached.eq_of_marker, fun j j' i => Attached.eq_of_taker,
    fun j k t => not_attached_of_replaced⟩
  intro i l fault hl hfault
  rw [generate_take_succ hl, Generation.visit_of_error hfault]

/-- A text that is replaced, a second one, and a handle that gets it. -/
def replacedHeader : List Located :=
  [{ declaration := .enumeration (some "doc1") none },
    { declaration := .enumeration (some "doc2") none },
    { declaration := .handle "sfWindow" }]

/-- The handle gets the second text, and the first one is lost. -/
theorem generate_attaches_comments_replacedHeader :
    Attached ⟨["A clock", "A window"]⟩ {} replacedHeader 1 2 ∧
    (∀ i, ¬ Attached ⟨["A clock", "A window"]⟩ {} replacedHeader 0 i) ∧
    (∃ c? : Option Text, c? = some (comment commentIndent "A window") ∧
      (generate ⟨["A clock", "A window"]⟩ {} (replacedHeader.take 3)).output =
        (generate ⟨["A clock", "A window"]⟩ {} (replacedHeader.take 2)).output.emit
          (generate ⟨["A clock", "A window"]⟩ {} (replacedHeader.take 3)).context.destination
          (Meaning.blocks c? (.handle "Window" (.object "type Window* = ptr object" [])))) ∧
    (generate ⟨["A clock", "A window"]⟩ {} replacedHeader).output.text? "main" =
      some (Text.ofString "type Window* = ptr object\n  ## A window\n") := by
  obtain ⟨_, hwritten, _, _, _, hreplaced⟩ :=
    generate_attaches_comments ⟨["A clock", "A window"]⟩ {} replacedHeader
  have hmeaning : Meaning.ofDeclaration ⟨["A clock", "A window"]⟩ .object
      (generate ⟨["A clock", "A window"]⟩ {} (replacedHeader.take 2)).context.handles
      (.handle "sfWindow") = .ok (.handle "Window" (.object "type Window* = ptr object" [])) := by
    with_unfolding_all decide
  have hbrings : BringsAt ⟨["A clock", "A window"]⟩ replacedHeader 1 "A window" := by
    refine ⟨_, rfl, Text.ofString "doc2", 2, Text.ofString "A window", rfl, ?_, rfl, ?_⟩
    · exact Marker.blockNumber?_eq_some_iff.mp (by with_unfolding_all decide)
    · with_unfolding_all decide
  have htakes : TakesAt ⟨["A clock", "A window"]⟩ {} replacedHeader 2 :=
    ⟨_, _, rfl, rfl, Generation.outcome_eq_ok_iff.mpr ⟨_, hmeaning, rfl⟩⟩
  have hwaits : WaitsAt ⟨["A clock", "A window"]⟩ {} replacedHeader 1 2 "A window" :=
    ⟨hbrings, by omega, fun k hk hk' => by omega, fun k hk hk' => by omega⟩
  obtain ⟨c?, houtput, hcomment, _⟩ := hwritten 2 _ _ rfl hmeaning
  refine ⟨⟨htakes, _, hwaits⟩, ?_, ⟨c?, ?_, houtput⟩, by with_unfolding_all decide⟩
  · exact hreplaced 0 1 _ hbrings (by omega) fun x hx hx' => by omega
  · exact (hcomment _).mpr ⟨1, _, htakes, hwaits, by with_unfolding_all decide, rfl⟩

end Bindery
