import Bindery.Binding.Meaning
import Bindery.Proofs.Block
import Bindery.Proofs.Marker

/-!
# What declarations can mean

A meaning that is found for a declaration is one of four kinds, and the declaration alone says of
which kind it is, whether it takes a comment, which text it brings and which module it opens. How
a meaning is carried out is then known from what it takes.
-/

namespace Bindery

namespace Declaration

/-- Whether a declaration that succeeds takes the comment that waits. -/
def takesComment (mode : UnionMode) : Declaration → Bool
  | function _ | handle _ | enumeration (some _) (some _) => true
  | struct r => r.name ≠ sharedRecord
  | union r => mode = .object ∧ r.name ≠ sharedRecord
  | _ => false

/-- A marker for a block that is there brings the text of that block. -/
def Brings (corpus : Corpus) (d : Declaration) (t : Text) : Prop :=
  ∃ name number block, d = .enumeration (some name) none ∧ Marker.AsksFor name number ∧
    corpus.block? number = some block ∧ t = Markup.commentText block

/-- The module that a marker opens. -/
def destination? : Declaration → Option Text
  | enumeration (some name) none => (Marker.moduleName? name).map Text.lower
  | _ => none

end Declaration

/-- What the declarations of each kind can mean. -/
inductive Meant (corpus : Corpus) (mode : UnionMode) : Declaration → Meaning → Prop where
  /-- A declaration that is bound says itself whether it takes a comment. -/
  | binding {d : Declaration} {b : Binding} (hflush : b.IsFlush)
    (htakes : b.takesComment = d.takesComment mode) : Meant corpus mode d (.binding b)
  /-- A handle takes a comment. -/
  | handle {name bare : Text} {b : Binding} (hflush : b.IsFlush) (htakes : b.takesComment = true) :
    Meant corpus mode (.handle name) (.handle bare b)
  /-- A marker for a block brings its text. -/
  | documentation {d : Declaration} {t : Text} (h : d.Brings corpus t) :
    Meant corpus mode d (.documentation t)
  /-- Any other marker opens a module below its banner. -/
  | destination {d : Declaration} {key banner : Text} (h : d.destination? = some key)
    (hbanner : banner.head? ≠ some ' ') : Meant corpus mode d (.destination key banner)

/-- What succeeds in two steps succeeds in each of them. -/
theorem exists_of_bind_eq_ok {e : Except ε α} {f : α → Except ε β} {y : β}
    (h : (e >>= f) = .ok y) : ∃ x, e = .ok x ∧ f x = .ok y := by
  cases e with
  | error fault => cases h
  | ok x => exact ⟨x, rfl, h⟩

/-- What is seen to succeed has a result. -/
theorem exists_of_isOk {e : Except ε α} (h : e.isOk = true) : ∃ x, e = .ok x := by
  cases e with
  | error fault => cases h
  | ok x => exact ⟨x, rfl⟩

section Bindings

variable {handles : Handles} {mode : UnionMode} {b : Binding}

private theorem isFlush_type (t : Text) : Text.isFlush (Text.ofString "type " ++ t) = true :=
  Text.isFlush_append (by with_unfolding_all decide) t

theorem bindFunction_eq_ok {s : Signature} (h : bindFunction handles s = .ok b) :
    b.IsFlush ∧ b.takesComment = true := by
  obtain ⟨⟨head, params⟩, _, h⟩ := exists_of_bind_eq_ok h
  cases h
  exact ⟨⟨ProcedureHead.forms_ne_nil, ProcedureHead.isFlush_of_mem_forms⟩, rfl⟩

theorem bindCallback_eq_ok {s : Signature} (h : bindCallback handles s = .ok b) :
    b.IsFlush ∧ b.takesComment = false := by
  obtain ⟨name, _, h⟩ := exists_of_bind_eq_ok h
  cases h
  refine ⟨?_, rfl⟩
  intro block hblock
  cases hblock
  simp only [List.append_assoc]
  exact isFlush_type _

theorem isFlush_bindAlias (name target : Text) :
    (bindAlias name target).IsFlush ∧ (bindAlias name target).takesComment = false := by
  unfold bindAlias
  split
  · refine ⟨?_, rfl⟩
    intro block hblock
    cases hblock
    simp only [List.append_assoc]
    exact isFlush_type _
  · exact ⟨nofun, rfl⟩

theorem bindEnumeration_eq_ok {name : Text} {items : List Enumerator}
    (h : bindEnumeration name items = .ok b) : b.IsFlush ∧ b.takesComment = true := by
  obtain ⟨bare, _, h⟩ := exists_of_bind_eq_ok h
  cases h
  refine ⟨?_, rfl⟩
  simp only [Binding.IsFlush, List.append_assoc]
  exact isFlush_type _

theorem bindConstants_eq_ok {items : List Enumerator} (h : bindConstants items = .ok b) :
    b.IsFlush ∧ b.takesComment = false := by
  obtain ⟨lines, _, h⟩ := exists_of_bind_eq_ok h
  cases h
  refine ⟨?_, rfl⟩
  intro block hblock
  cases hblock
  with_unfolding_all decide

theorem bindObject_eq_ok {pragmas : Text} {r : Record}
    (h : bindObject handles pragmas r = .ok b) : b.IsFlush ∧ b.takesComment = true := by
  obtain ⟨fields, _, h⟩ := exists_of_bind_eq_ok h
  cases h
  refine ⟨?_, rfl⟩
  simp only [Binding.IsFlush, List.append_assoc]
  exact isFlush_type _

theorem bindStruct_eq_ok {r : Record} (h : bindStruct handles r = .ok b) :
    b.IsFlush ∧ b.takesComment = decide (r.name ≠ sharedRecord) := by
  unfold bindStruct at h
  split at h
  · next hr =>
    cases h
    exact ⟨nofun, (decide_eq_false (not_not_intro hr)).symm⟩
  · next hr =>
    rw [decide_eq_true hr]
    exact bindObject_eq_ok h

theorem bindUnion_eq_ok {r : Record} (h : bindUnion handles mode r = .ok b) :
    b.IsFlush ∧ b.takesComment = decide (mode = .object ∧ r.name ≠ sharedRecord) := by
  unfold bindUnion at h
  split at h
  · next hr =>
    cases h
    exact ⟨nofun, (decide_eq_false fun h => h.2 hr).symm⟩
  · next hr =>
    cases mode with
    | object =>
      rw [decide_eq_true ⟨rfl, hr⟩]
      exact bindObject_eq_ok h
    | included =>
      obtain ⟨bare, _, h⟩ := exists_of_bind_eq_ok h
      cases h
      refine ⟨?_, (decide_eq_false nofun).symm⟩
      intro block hblock
      cases hblock
      exact Text.isFlush_append (by with_unfolding_all decide) _

theorem bindHandle_eq_ok {name : Text} (h : bindHandle name = .ok b) :
    b.IsFlush ∧ b.takesComment = true := by
  obtain ⟨bare, _, h⟩ := exists_of_bind_eq_ok h
  cases h
  refine ⟨?_, rfl⟩
  simp only [Binding.IsFlush, List.append_assoc]
  exact isFlush_type _

end Bindings

section Meanings

variable {corpus : Corpus} {mode : UnionMode} {handles : Handles} {d : Declaration}

private theorem block_eq_ok_iff {number : Nat} {block : Text} :
    corpus.block number = .ok block ↔ corpus.block? number = some block := by
  unfold Corpus.block
  cases corpus.block? number <;> simp

/-- A marker that brings a text is read as one for a block that is there. -/
theorem Declaration.Brings.ofDeclaration {t : Text} (h : d.Brings corpus t) :
    Meaning.ofDeclaration corpus mode handles d = .ok (.documentation t) := by
  obtain ⟨name, number, block, rfl, hasks, hblock, rfl⟩ := h
  have hmarker : Marker.ofName name = .ok (.block number) := by
    rw [Marker.ofName, Marker.blockNumber?_eq_some_iff.mpr hasks]
  rw [Meaning.ofDeclaration, hmarker]
  change (corpus.block number >>= fun block => _) = _
  rw [block_eq_ok_iff.mpr hblock]
  rfl

/-- A marker that opens a module does nothing else: it asks for no block. -/
theorem ofDeclaration_of_destination? {key : Text} (h : d.destination? = some key) :
    ∃ banner, Meaning.ofDeclaration corpus mode handles d = .ok (.destination key banner) := by
  unfold Declaration.destination? at h
  split at h
  · next name =>
    obtain ⟨part, hpart, rfl⟩ := Option.map_eq_some_iff.mp h
    have hblock : Marker.blockNumber? name = none := by
      rw [Option.eq_none_iff_forall_ne_some]
      intro number hnumber
      exact (Marker.blockNumber?_eq_some_iff.mp hnumber).not_namesModule
        (Marker.moduleName?_eq_some_iff.mp hpart)
    refine ⟨Marker.banner name, ?_⟩
    rw [Meaning.ofDeclaration, Marker.ofName, hblock, hpart]
    rfl
  · cases h

/-- A marker that is followed brings a text or opens a module. -/
theorem meant_of_ofMarker {name : Text} {meaning : Meaning}
    (h : (Marker.ofName name >>= Meaning.ofMarker corpus) = .ok meaning) :
    Meant corpus mode (.enumeration (some name) none) meaning := by
  obtain ⟨marker, hmarker, h⟩ := exists_of_bind_eq_ok h
  unfold Marker.ofName at hmarker
  split at hmarker
  · next number hnumber =>
    cases hmarker
    obtain ⟨block, hblock, h⟩ := exists_of_bind_eq_ok h
    cases h
    exact .documentation ⟨name, number, block, rfl, Marker.blockNumber?_eq_some_iff.mp hnumber,
      block_eq_ok_iff.mp hblock, rfl⟩
  · split at hmarker
    · next part hpart =>
      cases hmarker
      cases h
      refine .destination ?_ ?_
      · rw [Declaration.destination?, hpart]
        rfl
      · unfold Marker.banner
        rw [Text.ofString_eq]
        exact nofun
    · cases hmarker

/-- The meaning that is found for a declaration is one that it can have. -/
theorem meant_of_ofDeclaration {meaning : Meaning}
    (h : Meaning.ofDeclaration corpus mode handles d = .ok meaning) :
    Meant corpus mode d meaning := by
  cases d with
  | function s =>
    obtain ⟨b, hb, h⟩ := exists_of_bind_eq_ok h
    cases h
    exact .binding (bindFunction_eq_ok hb).1 (bindFunction_eq_ok hb).2
  | callback s =>
    obtain ⟨b, hb, h⟩ := exists_of_bind_eq_ok h
    cases h
    exact .binding (bindCallback_eq_ok hb).1 (bindCallback_eq_ok hb).2
  | «alias» name target =>
    cases h
    exact .binding (isFlush_bindAlias name target).1 (isFlush_bindAlias name target).2
  | enumeration name items =>
    cases name with
    | none =>
      cases items with
      | none => cases h
      | some items =>
        obtain ⟨b, hb, h⟩ := exists_of_bind_eq_ok h
        cases h
        exact .binding (bindConstants_eq_ok hb).1 (bindConstants_eq_ok hb).2
    | some name =>
      cases items with
      | none => exact meant_of_ofMarker h
      | some items =>
        obtain ⟨b, hb, h⟩ := exists_of_bind_eq_ok h
        cases h
        exact .binding (bindEnumeration_eq_ok hb).1 (bindEnumeration_eq_ok hb).2
  | struct r =>
    obtain ⟨b, hb, h⟩ := exists_of_bind_eq_ok h
    cases h
    exact .binding (bindStruct_eq_ok hb).1 (bindStruct_eq_ok hb).2
  | union r =>
    obtain ⟨b, hb, h⟩ := exists_of_bind_eq_ok h
    cases h
    exact .binding (bindUnion_eq_ok hb).1 (bindUnion_eq_ok hb).2
  | handle name =>
    obtain ⟨bare, _, h⟩ := exists_of_bind_eq_ok h
    obtain ⟨b, hb, h⟩ := exists_of_bind_eq_ok h
    cases h
    exact .handle (bindHandle_eq_ok hb).1 (bindHandle_eq_ok hb).2

end Meanings

namespace Meaning

/-- Whether a meaning takes the comment that waits. -/
def takesComment : Meaning → Bool
  | binding b | handle _ b => b.takesComment
  | _ => false

/-- The blocks of a meaning with a comment, or without one. -/
def blocks (comment : Option Text) : Meaning → List Text
  | binding b | handle _ b => b.blocks comment
  | documentation _ => []
  | destination _ banner => [banner]

end Meaning

namespace Context

/-- A binding is written with the comment of what waits if it takes comments, else without. -/
theorem fst_place (c : Context) (b : Binding) : (c.place b).1 =
    b.blocks (if b.takesComment then declarationComment? c.pending else none) := by
  unfold place
  cases b.takesComment <;> rfl

/-- What waits is used up by a binding that takes comments. -/
theorem pending_place (c : Context) (b : Binding) :
    (c.place b).2.pending = if b.takesComment then none else c.pending := by
  unfold place
  cases b.takesComment <;> rfl

/-- A binding does not change the module. -/
theorem destination_place (c : Context) (b : Binding) :
    (c.place b).2.destination = c.destination := by
  unfold place
  cases b.takesComment <;> rfl

variable {c : Context} {meaning : Meaning}

/-- A meaning is written with the comment of what waits if it takes comments, else without. -/
theorem fst_apply : (c.apply meaning).1 =
    meaning.blocks (if meaning.takesComment then declarationComment? c.pending else none) := by
  cases meaning with
  | binding b => exact fst_place c b
  | handle name b => exact fst_place _ b
  | documentation t => rfl
  | destination key banner => rfl

/-- What waits is used up where it is taken, and goes on waiting where it is neither taken nor
replaced. -/
theorem pending_apply (hdoc : ∀ t, meaning ≠ .documentation t) :
    (c.apply meaning).2.pending = if meaning.takesComment then none else c.pending := by
  cases meaning with
  | binding b => exact pending_place c b
  | handle name b => exact pending_place _ b
  | documentation t => exact absurd rfl (hdoc t)
  | destination key banner => rfl

/-- Only a marker that opens a module leads to another one. -/
theorem destination_apply (h : ∀ key banner, meaning ≠ .destination key banner) :
    (c.apply meaning).2.destination = c.destination := by
  cases meaning with
  | binding b => exact destination_place c b
  | handle name b => exact destination_place _ b
  | documentation t => rfl
  | destination key banner => exact absurd rfl (h key banner)

end Context

/-- The declaration says whether its meaning takes a comment. -/
theorem Meant.takesComment_eq {corpus : Corpus} {mode : UnionMode} {d : Declaration}
    {meaning : Meaning} (h : Meant corpus mode d meaning) :
    meaning.takesComment = d.takesComment mode := by
  cases h with
  | binding hflush htakes => exact htakes
  | handle hflush htakes => exact htakes
  | documentation h =>
    obtain ⟨name, _, _, rfl, _⟩ := h
    rfl
  | destination h hbanner =>
    unfold Declaration.destination? at h
    split at h
    · rfl
    · cases h

/-- Only a marker that brings a text means that text. -/
theorem Meant.brings {corpus : Corpus} {mode : UnionMode} {d : Declaration} {t : Text}
    (h : Meant corpus mode d (.documentation t)) : d.Brings corpus t := by
  cases h with
  | documentation h => exact h

/-- Only a marker that opens a module means that module. -/
theorem Meant.destination?_eq {corpus : Corpus} {mode : UnionMode} {d : Declaration}
    {key banner : Text} (h : Meant corpus mode d (.destination key banner)) :
    d.destination? = some key := by
  cases h with
  | destination h _ => exact h

/-- The first block of a group does not begin with a space, whatever the comment. -/
theorem Meant.head?_ne {corpus : Corpus} {mode : UnionMode} {d : Declaration} {meaning : Meaning}
    (h : Meant corpus mode d meaning) (comment : Option Text) :
    ∀ block ∈ (meaning.blocks comment).head?, block.head? ≠ some ' ' := by
  intro block hblock
  cases h with
  | binding hflush htakes => exact Text.head?_ne_of_isFlush (hflush.blocks comment block hblock)
  | handle hflush htakes => exact Text.head?_ne_of_isFlush (hflush.blocks comment block hblock)
  | documentation h => cases hblock
  | destination h hbanner =>
    cases hblock
    exact hbanner

/-- A comment that is taken stands in the group of the declaration. -/
theorem Meant.comment_infix {corpus : Corpus} {mode : UnionMode} {d : Declaration}
    {meaning : Meaning} (h : Meant corpus mode d meaning) (htakes : d.takesComment mode = true)
    (comment : Text) : comment <:+: Output.groupText (meaning.blocks (some comment)) := by
  rw [← h.takesComment_eq] at htakes
  cases h with
  | binding hflush _ => exact hflush.comment_infix htakes comment
  | handle hflush _ => exact hflush.comment_infix htakes comment
  | documentation h => cases htakes
  | destination h hbanner => cases htakes

end Bindery
