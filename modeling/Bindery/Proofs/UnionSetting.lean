import Bindery.Proofs.CodeText
import Bindery.Proofs.ParameterPassing

/-!
# The two settings for unions

A run that binds unions as objects and one that refers to definitions written elsewhere go on side
by side: in the same module, with the same handles and the same reports. Only what waits to become
a comment may differ, since a union takes a comment as an object and takes none as a reference. So
a text that is brought before a union may be left over for a later declaration.
-/

namespace Bindery

/-- Whether a declaration is that of a union. -/
def Declaration.isUnion : Declaration → Bool
  | union _ => true
  | _ => false

/-- A union that has a binding becomes a binding. -/
theorem ofDeclaration_union_eq_ok {corpus : Corpus} {mode : UnionMode} {handles : Handles}
    {r : Record} {meaning : Meaning}
    (h : Meaning.ofDeclaration corpus mode handles (.union r) = .ok meaning) :
    ∃ b, meaning = .binding b := by
  obtain ⟨b, _, h⟩ := exists_of_bind_eq_ok h
  cases h
  exact ⟨b, rfl⟩

section Settings

variable {corpus : Corpus} {mode mode' : UnionMode} {handles : Handles} {d : Declaration}

/-- The setting decides on unions only. -/
theorem ofDeclaration_eq_of_isUnion (hd : d.isUnion = false) :
    Meaning.ofDeclaration corpus mode handles d = Meaning.ofDeclaration corpus mode' handles d := by
  cases d with
  | union r => cases hd
  | enumeration name items => cases name <;> cases items <;> rfl
  | _ => rfl

theorem takesComment_eq_of_isUnion (hd : d.isUnion = false) :
    d.takesComment mode = d.takesComment mode' := by
  cases d with
  | union r => cases hd
  | enumeration name items => cases name <;> cases items <;> rfl
  | _ => rfl

end Settings

/-- Two runs in the same module, with the same handles and the same reports. -/
structure Abreast (g g' : Generation) : Prop where
  /-- The same handles are known. -/
  handles : g.context.handles = g'.context.handles
  /-- The declarations go to the same module. -/
  destination : g.context.destination = g'.context.destination
  /-- The same declarations were skipped, for the same reasons. -/
  diagnostics : g.diagnostics = g'.diagnostics

section Steps

variable {corpus : Corpus} {mode mode' : UnionMode} {g g' : Generation} {l : Located}

/-- Runs stay abreast over a declaration that means the same to both. -/
theorem Abreast.visit_of_eq (h : Abreast g g')
    (hmeaning : Meaning.ofDeclaration corpus mode g'.context.handles l.declaration =
      Meaning.ofDeclaration corpus mode' g'.context.handles l.declaration) :
    Abreast (g.visit corpus mode l) (g'.visit corpus mode' l) := by
  cases he : Meaning.ofDeclaration corpus mode' g'.context.handles l.declaration with
  | error fault =>
    rw [he, ← h.handles] at hmeaning
    rw [Generation.visit_of_error hmeaning, Generation.visit_of_error he]
    exact ⟨h.handles, h.destination, congrArg (· ++ [fault.diagnostic l]) h.diagnostics⟩
  | ok meaning =>
    rw [he, ← h.handles] at hmeaning
    rw [Generation.visit_of_ok hmeaning, Generation.visit_of_ok he]
    obtain ⟨hhandles, hdestination⟩ := Context.apply_eq h.handles h.destination meaning
    exact ⟨hhandles, hdestination, h.diagnostics⟩

/-- A union that does not fail changes neither the module nor the handles nor the reports. -/
theorem abreast_visit_union {r : Record} (hl : l.declaration = .union r)
    (hok : ∀ fault, g.outcome corpus mode l ≠ .error fault) : Abreast g (g.visit corpus mode l) := by
  cases hmeaning : Meaning.ofDeclaration corpus mode g.context.handles l.declaration with
  | error fault => exact absurd (Generation.outcome_eq_error_iff.mpr hmeaning) (hok fault)
  | ok meaning =>
    rw [Generation.visit_of_ok hmeaning]
    rw [hl] at hmeaning
    obtain ⟨b, rfl⟩ := ofDeclaration_union_eq_ok hmeaning
    exact ⟨(Context.handles_place g.context b).symm, (Context.destination_place g.context b).symm,
      rfl⟩

theorem Abreast.symm (h : Abreast g g') : Abreast g' g :=
  ⟨h.handles.symm, h.destination.symm, h.diagnostics.symm⟩

theorem Abreast.trans {g'' : Generation} (h : Abreast g g') (h' : Abreast g' g'') :
    Abreast g g'' :=
  ⟨h.handles.trans h'.handles, h.destination.trans h'.destination,
    h.diagnostics.trans h'.diagnostics⟩

/-- Runs stay abreast over one more declaration, if it is no union that fails. -/
theorem Abreast.visit (h : Abreast g g')
    (hok : l.declaration.isUnion = true → ∀ fault, g.outcome corpus mode l ≠ .error fault)
    (hok' : l.declaration.isUnion = true → ∀ fault, g'.outcome corpus mode' l ≠ .error fault) :
    Abreast (g.visit corpus mode l) (g'.visit corpus mode' l) := by
  cases hunion : l.declaration.isUnion with
  | false => exact h.visit_of_eq (ofDeclaration_eq_of_isUnion hunion)
  | true =>
    obtain ⟨r, hl⟩ : ∃ r, l.declaration = .union r := by
      cases hd : l.declaration with
      | union r => exact ⟨r, rfl⟩
      | _ =>
        rw [hd] at hunion
        cases hunion
    have hleft := (abreast_visit_union hl (hok hunion)).symm
    exact hleft.trans (h.trans (abreast_visit_union hl (hok' hunion)))

end Steps

/-! ## Runs -/

section Runs

variable (corpus : Corpus) (key : Text) (ls : List Located)

/-- No union of a header fails, whether unions become objects or are defined elsewhere. -/
def UnionsSucceed : Prop :=
  ∀ mode i l, ls[i]? = some l → l.declaration.isUnion = true → ∀ fault,
    (generate corpus ⟨key, mode⟩ (ls.take i)).outcome corpus mode l ≠ .error fault

/-- At a place stands a union that could take a comment. -/
def IsUnionAt (k : Nat) : Prop :=
  ∃ l r, ls[k]? = some l ∧ l.declaration = .union r ∧ r.name ≠ sharedRecord

/-- With unions defined elsewhere, the text that a marker brings waits past a union for a
declaration that takes it. -/
structure WaitsPastUnion (j i : Nat) (t : Text) : Prop where
  /-- The declaration takes comments. -/
  takes : TakesAt corpus ⟨key, .included⟩ ls i
  /-- The text waits for it. -/
  waits : WaitsAt corpus ⟨key, .included⟩ ls j i t
  /-- The text is not empty. -/
  ne_nil : t ≠ []
  /-- A union stands in between. -/
  passes : ∃ k, j < k ∧ k < i ∧ IsUnionAt ls k

variable {corpus : Corpus} {key : Text} {ls : List Located} {i j k : Nat} {l : Located} {t : Text}

/-- A union fails where it is defined elsewhere under a foreign name, and as an object where it has
a field that cannot be referred to. -/
theorem unionsSucceed_iff : UnionsSucceed corpus key ls ↔
    ∀ l ∈ ls, ∀ r, l.declaration = .union r → r.name ≠ sharedRecord →
      ¬ IsForeign r.name ∧ ¬ r.HasUnnamedField := by
  constructor
  · intro h l hmem r hr hshared
    obtain ⟨i, hl⟩ := List.mem_iff_getElem?.mp hmem
    have hunion : l.declaration.isUnion = true := by
      rw [hr]
      rfl
    constructor
    · intro hforeign
      refine h .included i l hl hunion (.foreignName r.name) ?_
      rw [Generation.outcome_eq_error_iff, hr]
      exact ofDeclaration_eq_error_iff.mpr (.included rfl hshared hforeign)
    · intro hfield
      refine h .object i l hl hunion (.unnamedField r.name) ?_
      rw [Generation.outcome_eq_error_iff, hr]
      exact ofDeclaration_eq_error_iff.mpr (.union rfl hshared hfield)
  · intro h mode i l hl hunion fault hfault
    have hfaulty := ofDeclaration_eq_error_iff.mp (Generation.outcome_eq_error_iff.mp hfault)
    generalize hd : l.declaration = d at hfaulty hunion
    have hmem := List.mem_of_getElem? hl
    cases hfaulty with
    | included hmode hshared hforeign => exact (h l hmem _ hd hshared).1 hforeign
    | union hmode hshared hfield => exact (h l hmem _ hd hshared).2 hfield
    | _ => cases hunion

/-- The runs under both settings are abreast at every place. -/
theorem UnionsSucceed.abreast (h : UnionsSucceed corpus key ls) (i : Nat) :
    Abreast (generate corpus ⟨key, .object⟩ (ls.take i))
      (generate corpus ⟨key, .included⟩ (ls.take i)) := by
  induction i with
  | zero => exact ⟨rfl, rfl, rfl⟩
  | succ i ih =>
    cases hl : ls[i]? with
    | none => rwa [List.take_add_one, hl, Option.toList_none, List.append_nil]
    | some l =>
      rw [generate_take_succ hl, generate_take_succ hl]
      exact ih.visit (h .object i l hl) (h .included i l hl)

/-- A declaration that is no union has the same meaning, or none for the same reason. -/
theorem UnionsSucceed.ofDeclaration_eq (h : UnionsSucceed corpus key ls) (i : Nat)
    (hunion : l.declaration.isUnion = false) :
    Meaning.ofDeclaration corpus .object
        (generate corpus ⟨key, .object⟩ (ls.take i)).context.handles l.declaration =
      Meaning.ofDeclaration corpus .included
        (generate corpus ⟨key, .included⟩ (ls.take i)).context.handles l.declaration := by
  rw [(h.abreast i).handles]
  exact ofDeclaration_eq_of_isUnion hunion

/-- The declaration at a place takes what waits exactly when it takes comments and has a meaning. -/
theorem takesAt_iff {mode : UnionMode} (hl : ls[i]? = some l) :
    TakesAt corpus ⟨key, mode⟩ ls i ↔ l.declaration.takesComment mode = true ∧
      ∃ meaning, Meaning.ofDeclaration corpus mode
        (generate corpus ⟨key, mode⟩ (ls.take i)).context.handles l.declaration = .ok meaning := by
  constructor
  · rintro ⟨l', blocks, hl', htakes, hok⟩
    obtain rfl : l = l' := Option.some.inj (hl.symm.trans hl')
    obtain ⟨meaning, hmeaning, _⟩ := Generation.outcome_eq_ok_iff.mp hok
    exact ⟨htakes, meaning, hmeaning⟩
  · rintro ⟨htakes, meaning, hmeaning⟩
    exact ⟨l, _, hl, htakes, Generation.outcome_eq_ok_iff.mpr ⟨meaning, hmeaning, rfl⟩⟩

/-- As objects unions take what waits as well; apart from that, the same declarations do. -/
theorem UnionsSucceed.takesAt_object_iff (h : UnionsSucceed corpus key ls) :
    TakesAt corpus ⟨key, .object⟩ ls k ↔
      TakesAt corpus ⟨key, .included⟩ ls k ∨ IsUnionAt ls k := by
  cases hl : ls[k]? with
  | none => simp [TakesAt, IsUnionAt, hl]
  | some l =>
    rw [takesAt_iff hl, takesAt_iff hl]
    by_cases hunion : l.declaration.isUnion = true
    · cases hd : l.declaration with
      | union r =>
        have hmeaning : ∃ meaning, Meaning.ofDeclaration corpus .object
            (generate corpus ⟨key, .object⟩ (ls.take k)).context.handles (.union r) =
              .ok meaning := by
          cases he : Meaning.ofDeclaration corpus .object
              (generate corpus ⟨key, .object⟩ (ls.take k)).context.handles (.union r) with
          | error fault =>
            rw [← hd] at he
            exact absurd (Generation.outcome_eq_error_iff.mpr he) (h .object k l hl hunion fault)
          | ok meaning => exact ⟨meaning, rfl⟩
        simp [Declaration.takesComment, IsUnionAt, hl, hd, hmeaning]
      | _ =>
        rw [hd] at hunion
        cases hunion
    · rw [Bool.not_eq_true] at hunion
      have hnot : ¬ IsUnionAt ls k := by
        rintro ⟨l', r, hl', hr, _⟩
        obtain rfl : l = l' := Option.some.inj (hl.symm.trans hl')
        rw [hr] at hunion
        cases hunion
      rw [or_iff_left hnot, takesComment_eq_of_isUnion hunion, h.ofDeclaration_eq k hunion]

/-- What waits with unions as objects is what waits with unions defined elsewhere, and past no
union. -/
theorem UnionsSucceed.waitsAt_object_iff (h : UnionsSucceed corpus key ls) :
    WaitsAt corpus ⟨key, .object⟩ ls j i t ↔
      WaitsAt corpus ⟨key, .included⟩ ls j i t ∧ ¬ ∃ k, j < k ∧ k < i ∧ IsUnionAt ls k := by
  constructor
  · intro hwaits
    refine ⟨⟨hwaits.brings, hwaits.lt, hwaits.unreplaced, ?_⟩, ?_⟩
    · exact fun k hj hi htakes => hwaits.untaken k hj hi (h.takesAt_object_iff.mpr (Or.inl htakes))
    · rintro ⟨k, hj, hi, hunion⟩
      exact hwaits.untaken k hj hi (h.takesAt_object_iff.mpr (Or.inr hunion))
  · rintro ⟨hwaits, hpasses⟩
    refine ⟨hwaits.brings, hwaits.lt, hwaits.unreplaced, fun k hj hi htakes => ?_⟩
    rcases h.takesAt_object_iff.mp htakes with htakes | hunion
    · exact hwaits.untaken k hj hi htakes
    · exact hpasses ⟨k, hj, hi, hunion⟩

/-- What waits past a union has been taken by it if unions are objects, and nothing waits there. -/
theorem WaitsPastUnion.pending_object (h : WaitsPastUnion corpus key ls j i t)
    (hsucceed : UnionsSucceed corpus key ls) :
    (generate corpus ⟨key, .object⟩ (ls.take i)).context.pending = none := by
  rw [Option.eq_none_iff_forall_ne_some]
  intro t' ht'
  obtain ⟨j', hwaits⟩ := pending_eq_some_iff.mp ht'
  obtain ⟨hwaits', hpasses⟩ := hsucceed.waitsAt_object_iff.mp hwaits
  rcases Nat.lt_trichotomy j j' with hlt | rfl | hgt
  · exact h.waits.unreplaced j' hlt hwaits.lt t' hwaits.brings
  · exact hpasses h.passes
  · exact hwaits.unreplaced j hgt h.waits.lt t h.waits.brings

/-- The same comment waits for a declaration under both settings, unless a text waits for it past a
union. -/
theorem UnionsSucceed.declarationComment?_eq (h : UnionsSucceed corpus key ls)
    (htakes : TakesAt corpus ⟨key, .included⟩ ls i)
    (hpast : ∀ j t, ¬ WaitsPastUnion corpus key ls j i t) :
    declarationComment? (generate corpus ⟨key, .object⟩ (ls.take i)).context.pending =
      declarationComment? (generate corpus ⟨key, .included⟩ (ls.take i)).context.pending := by
  ext c
  simp only [Bindery.declarationComment?_eq, Option.bind_eq_some_iff, pending_eq_some_iff,
    commentOn?, Option.ite_none_left_eq_some, h.waitsAt_object_iff]
  constructor
  · rintro ⟨t, ⟨j, hwaits, _⟩, hne, hc⟩
    exact ⟨t, ⟨j, hwaits⟩, hne, hc⟩
  · rintro ⟨t, ⟨j, hwaits⟩, hne, hc⟩
    exact ⟨t, ⟨j, hwaits, fun hpasses => hpast j t ⟨htakes, hwaits, hne, hpasses⟩⟩, hne, hc⟩

/-- With no text past a union, a declaration that is no union has the same entry. -/
theorem UnionsSucceed.entryFor?_eq (h : UnionsSucceed corpus key ls) (hl : ls[i]? = some l)
    (hunion : l.declaration.isUnion = false)
    (hpast : ∀ j t, ¬ WaitsPastUnion corpus key ls j i t) :
    entryFor? corpus ⟨key, .object⟩ (ls.take i) l =
      entryFor? corpus ⟨key, .included⟩ (ls.take i) l := by
  have houtcome : (generate corpus ⟨key, .object⟩ (ls.take i)).outcome corpus .object l =
      (generate corpus ⟨key, .included⟩ (ls.take i)).outcome corpus .included l := by
    rw [Generation.outcome_eq, Generation.outcome_eq, h.ofDeclaration_eq i hunion]
    cases hmeaning : Meaning.ofDeclaration corpus .included
        (generate corpus ⟨key, .included⟩ (ls.take i)).context.handles l.declaration with
    | error fault => rfl
    | ok meaning =>
      simp only [Context.carryOut, Context.fst_apply]
      cases htakes : meaning.takesComment with
      | false => rfl
      | true =>
        rw [(meant_of_ofDeclaration hmeaning).takesComment_eq] at htakes
        rw [h.declarationComment?_eq ((takesAt_iff hl).mpr ⟨htakes, meaning, hmeaning⟩) hpast]
  rw [entryFor?, entryFor?, houtcome]
  rfl

/-- A group that is not empty is the entry of its declaration. -/
theorem entryFor?_of_outcome {options : GenerationOptions} {before : List Located}
    {blocks : List Text} (hne : blocks ≠ [])
    (h : (generate corpus options before).outcome corpus options.unionMode l = .ok blocks) :
    entryFor? corpus options before l = some ⟨currentModule options (before ++ [l]), blocks⟩ :=
  entryFor?_eq_some_iff.mpr ⟨h, hne, rfl⟩

/-- What takes a comment is not empty. -/
theorem Meaning.blocks_ne_nil {meaning : Meaning} (h : meaning.takesComment = true)
    (comment : Option Text) : meaning.blocks comment ≠ [] := by
  cases meaning with
  | binding b =>
    cases b with
    | plain blocks => cases h
    | _ => exact List.cons_ne_nil _ _
  | handle name b =>
    cases b with
    | plain blocks => cases h
    | _ => exact List.cons_ne_nil _ _
  | documentation t => cases h
  | destination key banner => cases h

/-- A declaration for which a text waits past a union gets its comment if unions are defined
elsewhere, and none if they are objects; its entry is the same otherwise. -/
theorem WaitsPastUnion.exists_entries (h : WaitsPastUnion corpus key ls j i t)
    (hsucceed : UnionsSucceed corpus key ls) (hl : ls[i]? = some l)
    (hunion : l.declaration.isUnion = false) : ∃ (meaning : Meaning) (place : Text),
      entryFor? corpus ⟨key, .object⟩ (ls.take i) l = some ⟨place, meaning.blocks none⟩ ∧
      entryFor? corpus ⟨key, .included⟩ (ls.take i) l =
        some ⟨place, meaning.blocks (some (comment commentIndent t))⟩ ∧
      comment commentIndent t <:+:
        Output.groupText (meaning.blocks (some (comment commentIndent t))) := by
  obtain ⟨htakes, meaning, hmeaning⟩ := (takesAt_iff hl).mp h.takes
  have hmeaning' := (hsucceed.ofDeclaration_eq i hunion).trans hmeaning
  have hmeant := meant_of_ofDeclaration hmeaning
  have htake : meaning.takesComment = true := hmeant.takesComment_eq.trans htakes
  have hcomment : declarationComment?
      (generate corpus ⟨key, .included⟩ (ls.take i)).context.pending =
        some (comment commentIndent t) := by
    rw [declarationComment?_eq, pending_eq_some_iff.mpr ⟨j, h.waits⟩, Option.bind_some,
      commentOn?, if_neg h.ne_nil]
  refine ⟨meaning, currentModule ⟨key, .object⟩ (ls.take i ++ [l]), ?_, ?_,
    hmeant.comment_infix htakes _⟩
  · apply entryFor?_of_outcome (meaning.blocks_ne_nil htake none)
    refine Generation.outcome_eq_ok_iff.mpr ⟨meaning, hmeaning', ?_⟩
    rw [Context.fst_apply, htake, h.pending_object hsucceed]
    rfl
  · apply entryFor?_of_outcome (meaning.blocks_ne_nil htake _)
    refine Generation.outcome_eq_ok_iff.mpr ⟨meaning, hmeaning, ?_⟩
    rw [Context.fst_apply, htake, if_pos rfl, hcomment]

end Runs

/-- **The setting for unions changes unions only**, and what waits behind them. If no union fails
under either setting, the same handles are found and the same declarations are reported. Every other
declaration has the same entry, with the same comment, unless a text that says something waits for
it past a union where unions are defined elsewhere; then the comment of that text is all that
distinguishes its entries, and it is missing where unions are objects. -/
theorem generate_union_settings (corpus : Corpus) (key : Text) {ls : List Located}
    (h : UnionsSucceed corpus key ls) :
    (generate corpus ⟨key, .object⟩ ls).handleNames =
      (generate corpus ⟨key, .included⟩ ls).handleNames ∧
    (generate corpus ⟨key, .object⟩ ls).diagnostics =
      (generate corpus ⟨key, .included⟩ ls).diagnostics ∧
    ∀ i l, ls[i]? = some l → l.declaration.isUnion = false →
      ((∀ j t, ¬ WaitsPastUnion corpus key ls j i t) →
        entryFor? corpus ⟨key, .object⟩ (ls.take i) l =
          entryFor? corpus ⟨key, .included⟩ (ls.take i) l) ∧
      ∀ j t, WaitsPastUnion corpus key ls j i t → ∃ (meaning : Meaning) (place : Text),
        entryFor? corpus ⟨key, .object⟩ (ls.take i) l = some ⟨place, meaning.blocks none⟩ ∧
        entryFor? corpus ⟨key, .included⟩ (ls.take i) l =
          some ⟨place, meaning.blocks (some (comment commentIndent t))⟩ ∧
        comment commentIndent t <:+:
          Output.groupText (meaning.blocks (some (comment commentIndent t))) := by
  have habreast := h.abreast ls.length
  rw [List.take_length] at habreast
  refine ⟨?_, habreast.diagnostics, ?_⟩
  · rw [Generation.handleNames, habreast.handles, Generation.handleNames]
  · intro i l hl hunion
    exact ⟨h.entryFor?_eq hl hunion, fun j t hpast => hpast.exists_entries h hl hunion⟩

/-- A union with documentation and two handles behind it. -/
def eventHeader : List Located :=
  [{ declaration := .enumeration (some "doc1") none },
    { declaration := .union ⟨"sfEvent", [⟨"int", some "kind"⟩]⟩ },
    { declaration := .handle "sfWindow" },
    { declaration := .handle "sfView" }]

theorem unionsSucceed_eventHeader (corpus : Corpus) (key : Text) :
    UnionsSucceed corpus key eventHeader := by
  rw [unionsSucceed_iff]
  intro l hl r hr _
  simp only [eventHeader, List.mem_cons, List.not_mem_nil, or_false] at hl
  rcases hl with rfl | rfl | rfl | rfl
  · cases hr
  · cases hr
    constructor
    · exact fun hforeign => hforeign.1 ⟨"Event", by with_unfolding_all decide⟩
    · rintro ⟨p, hp, hname, _⟩
      rw [List.mem_singleton.mp hp] at hname
      cases hname
  · cases hr
  · cases hr

/-- Behind the first handle nothing waits under either setting, and the second one has the same
entry. -/
theorem generate_union_settings_eventHeader :
    UnionsSucceed ⟨["An event"]⟩ "main" eventHeader ∧
    (generate ⟨["An event"]⟩ ⟨"main", .object⟩ eventHeader).handleNames =
      (generate ⟨["An event"]⟩ ⟨"main", .included⟩ eventHeader).handleNames ∧
    entryFor? ⟨["An event"]⟩ ⟨"main", .object⟩ (eventHeader.take 3) { declaration := .handle "sfView" } =
      entryFor? ⟨["An event"]⟩ ⟨"main", .included⟩ (eventHeader.take 3)
        { declaration := .handle "sfView" } := by
  have hsucceed := unionsSucceed_eventHeader ⟨["An event"]⟩ "main"
  obtain ⟨hhandles, _, hentries⟩ := generate_union_settings ⟨["An event"]⟩ "main" hsucceed
  refine ⟨hsucceed, hhandles, (hentries 3 _ rfl rfl).1 ?_⟩
  intro j t hpast
  have hpending := pending_eq_some_iff.mpr ⟨j, hpast.waits⟩
  have hnone : (generate ⟨["An event"]⟩ ⟨"main", .included⟩ (eventHeader.take 3)).context.pending =
      none := by
    with_unfolding_all decide
  rw [hnone] at hpending
  cases hpending

/-- The first handle gets the comment of the union where that takes none. -/
theorem not_same_entries_eventHeader :
    UnionsSucceed ⟨["An event"]⟩ "main" eventHeader ∧
    ¬ ∀ i l, eventHeader[i]? = some l → l.declaration.isUnion = false →
      entryFor? ⟨["An event"]⟩ ⟨"main", .object⟩ (eventHeader.take i) l =
        entryFor? ⟨["An event"]⟩ ⟨"main", .included⟩ (eventHeader.take i) l := by
  refine ⟨unionsSucceed_eventHeader _ _, fun h => ?_⟩
  have hwindow := h 2 { declaration := .handle "sfWindow" } rfl rfl
  revert hwindow
  with_unfolding_all decide

end Bindery
