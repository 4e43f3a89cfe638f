import Bindery.Proofs.Log
import Bindery.Proofs.PickedLine

/-!
# Code without comments

What is left of an output without its comments does not depend on the documentation: two runs with
as many blocks of documentation go on side by side, in the same module and with the same handles,
and write the same code.
-/

namespace Bindery

open Text (pick)

/-- What a line has before its first comment; nothing if it is a line of a comment. -/
def codeLine? (line : Text) : Option Text :=
  if Text.startsWith commentLead line then none
  else some (((Text.cutAt? commentLead line).map (·.1)).getD line)

/-- The lines of a text without comments. -/
def codeLines (t : Text) : List Text := pick codeLine? t

example : codeLines "a = b  ## c\n  ## d\n  e ## f" = [Text.ofString "a = b", "  e ## f"] := by
  with_unfolding_all decide

/-- Every module with its lines without comments. -/
def Output.code (o : Output) : List (Text × List Text) :=
  o.modules.map fun m => (m.1, codeLines m.2)

theorem skipsComments_codeLine? : SkipsComments codeLine? := by
  intro t
  exact if_pos (Text.startsWith_iff.mpr ⟨t, rfl⟩)

private theorem commentLead_eq : commentLead = [' ', ' ', '#', '#', ' '] := by
  with_unfolding_all decide

/-- A comment behind a text without a number sign begins where it seems to. -/
theorem cutAt?_commentLead {s : Text} (h : '#' ∉ s) (t : Text) :
    Text.cutAt? commentLead (s ++ (commentLead ++ t)) = some (s, t) := by
  rw [commentLead_eq]
  induction s with
  | nil => rfl
  | cons c s ih =>
    have hs : '#' ∉ s := fun hmem => h (List.mem_cons_of_mem c hmem)
    -- The third character from here stands in the text or is one of the first two of the mark.
    have hafter : Text.after? [' ', ' ', '#', '#', ' ']
        (c :: (s ++ ([' ', ' ', '#', '#', ' '] ++ t))) = none := by
      rcases s with _ | ⟨d, _ | ⟨e, s⟩⟩
      · simp [Text.after?]
      · simp [Text.after?]
      · have he : '#' ≠ e := fun heq => hs (heq ▸ List.mem_cons_of_mem d List.mem_cons_self)
        simp [Text.after?, he]
    rw [List.cons_append, Text.cutAt?, hafter, ih hs]
    rfl

theorem cutAt?_commentLead_eq_none {s : Text} (h : '#' ∉ s) :
    Text.cutAt? commentLead s = none := by
  cases hcut : Text.cutAt? commentLead s with
  | none => rfl
  | some cut =>
    rw [Text.eq_of_cutAt? hcut, commentLead_eq] at h
    simp at h

/-- The code of a head at the margin is the head, with or without a comment behind it. -/
theorem codeLine?_head {head : Text} (hflush : head.isFlush = true) (h : '#' ∉ head) (t : Text) :
    codeLine? (head ++ (commentLead ++ t)) = codeLine? head := by
  have hstarts : ∀ u, Text.startsWith commentLead (head ++ u) = false := by
    intro u
    rw [Bool.eq_false_iff]
    intro hstarts
    obtain ⟨rest, hrest⟩ := Text.startsWith_iff.mp hstarts
    rw [commentLead_eq] at hrest
    cases head with
    | nil => cases hflush
    | cons c head =>
      obtain ⟨rfl, _⟩ := List.cons.inj hrest
      exact absurd rfl (Text.head?_ne_of_isFlush hflush)
  have hnone := hstarts []
  rw [List.append_nil] at hnone
  rw [codeLine?, codeLine?, hstarts, hnone, cutAt?_commentLead h, cutAt?_commentLead_eq_none h]
  rfl

/-! ## Two runs -/

namespace Output

/-- Add lines of code to the module with a name. -/
def addCode (key : Text) (lines : List Text) : List (Text × List Text) → List (Text × List Text)
  | [] => [(key, lines)]
  | (k, code) :: modules =>
    if k = key then (k, code ++ lines) :: modules else (k, code) :: addCode key lines modules

private theorem code_addTo {key : Text} {blocks : List Text} (h : separator blocks = ['\n'])
    (modules : List (Text × Text)) :
    (addTo key blocks modules).map (fun m => (m.1, codeLines m.2)) =
      addCode key (codeLines (groupText blocks)) (modules.map fun m => (m.1, codeLines m.2)) := by
  induction modules with
  | nil => rfl
  | cons m modules ih =>
    obtain ⟨k, t⟩ := m
    rw [addTo, List.map_cons, addCode]
    split
    · rw [List.map_cons, h, codeLines, List.append_assoc, List.singleton_append,
        Text.pick_append_lineFeed]
      rfl
    · rw [List.map_cons, ih]

/-- What is written changes the code by the code of what is written. -/
theorem code_emit {o : Output} {key : Text} {blocks : List Text} (h : separator blocks = ['\n']) :
    (o.emit key blocks).code =
      if blocks.isEmpty then o.code else addCode key (codeLines (groupText blocks)) o.code := by
  unfold emit
  split
  · rfl
  · exact code_addTo h o.modules

theorem separator_of_head? {blocks : List Text}
    (h : ∀ block ∈ blocks.head?, block.head? ≠ some ' ') : separator blocks = ['\n'] := by
  unfold separator
  split
  · exact absurd rfl (h _ rfl)
  · rfl

end Output

/-- Two runs that go on alike: with the same handles, in the same module and with the same reports
and the same code. What waits to become a comment may differ. -/
structure Alike (g g' : Generation) : Prop where
  /-- The same handles are known. -/
  handles : g.context.handles = g'.context.handles
  /-- The declarations go to the same module. -/
  destination : g.context.destination = g'.context.destination
  /-- The same declarations were skipped, for the same reasons. -/
  diagnostics : g.diagnostics = g'.diagnostics
  /-- The same code was written. -/
  code : g.output.code = g'.output.code

/-- Two searches for a meaning that agree, but for the text of a documentation. -/
inductive SameMeaning : Except BindingFault Meaning → Except BindingFault Meaning → Prop where
  /-- The same was found, or nothing for the same reason. -/
  | refl (e : Except BindingFault Meaning) : SameMeaning e e
  /-- Some documentation was found. -/
  | documentation (t t' : Text) :
    SameMeaning (.ok (.documentation t)) (.ok (.documentation t'))

section Runs

variable {corpus corpus' : Corpus} {mode : UnionMode} {handles : Handles} {d : Declaration}

/-- With as many blocks of documentation, a declaration means the same. -/
theorem sameMeaning_ofDeclaration (hsize : corpus.size = corpus'.size) :
    SameMeaning (Meaning.ofDeclaration corpus mode handles d)
      (Meaning.ofDeclaration corpus' mode handles d) := by
  cases d with
  | enumeration name items =>
    cases items with
    | some items => cases name <;> exact .refl _
    | none =>
      cases name with
      | none => exact .refl _
      | some name =>
        change SameMeaning (Marker.ofName name >>= Meaning.ofMarker corpus)
          (Marker.ofName name >>= Meaning.ofMarker corpus')
        cases Marker.ofName name with
        | error fault => exact .refl _
        | ok marker =>
          cases marker with
          | destination key banner => exact .refl _
          | block number =>
            have hfault : ∀ fault, corpus.block number = .error fault ↔
                corpus'.block number = .error fault := by
              intro fault
              rw [Corpus.block_eq_error_iff, Corpus.block_eq_error_iff, hsize]
            change SameMeaning (corpus.block number >>= fun t => _)
              (corpus'.block number >>= fun t => _)
            cases hblock : corpus.block number with
            | error fault =>
              rw [(hfault fault).mp hblock]
              exact .refl _
            | ok block =>
              cases hblock' : corpus'.block number with
              | error fault =>
                rw [(hfault fault).mpr hblock'] at hblock
                cases hblock
              | ok block' => exact .documentation _ _
  | _ => exact .refl _

end Runs

/-- What a meaning does to the handles and the module does not depend on what waits. -/
theorem Context.apply_eq {c c' : Context} (hhandles : c.handles = c'.handles)
    (hdestination : c.destination = c'.destination) (meaning : Meaning) :
    (c.apply meaning).2.handles = (c'.apply meaning).2.handles ∧
      (c.apply meaning).2.destination = (c'.apply meaning).2.destination := by
  have hplace : ∀ (c : Context) (b : Binding), (c.place b).2.handles = c.handles := by
    intro c b
    unfold place
    cases b.takesComment <;> rfl
  cases meaning with
  | binding b =>
    exact ⟨by rw [apply, apply, hplace, hplace, hhandles],
      by rw [apply, apply, destination_place, destination_place, hdestination]⟩
  | handle name b =>
    exact ⟨by rw [apply, apply, hplace, hplace, hhandles],
      by rw [apply, apply, destination_place, destination_place, hdestination]⟩
  | documentation t => exact ⟨hhandles, hdestination⟩
  | destination key banner => exact ⟨hhandles, rfl⟩

/-- Whether a meaning gives blocks does not depend on the comment. -/
theorem Meaning.isEmpty_blocks (meaning : Meaning) (comment : Option Text) :
    (meaning.blocks comment).isEmpty = (meaning.blocks none).isEmpty := by
  cases meaning with
  | binding b => cases b <;> rfl
  | handle name b => cases b <;> rfl
  | documentation t => rfl
  | destination key banner => rfl

section Runs

variable {corpus corpus' : Corpus} {mode : UnionMode} {g g' : Generation} {l : Located}

/-- The head of an enumeration without number signs is the same code with any comment. -/
theorem picksHead_codeLine? {handles : Handles} {d : Declaration} {b : Binding}
    (h : BoundAs handles d b) (hsign : ∀ t ∈ d.texts, '#' ∉ t) : b.PicksHead codeLine? := by
  cases h with
  | enumeration hd hname =>
    subst hd
    refine codeLine?_head ?_ (not_mem_head (by decide) hname (hsign _ List.mem_cons_self))
    simp only [List.append_assoc]
    exact Text.isFlush_append (by with_unfolding_all decide) _
  | procedure => trivial
  | plain => trivial
  | object => trivial

/-- Runs that are alike stay alike over one more declaration. -/
theorem Alike.visit (h : Alike g g') (hsize : corpus.size = corpus'.size)
    (hl : ∀ t ∈ l.declaration.texts, ∀ c ∈ ['#', '\r', '\n'], c ∉ t) :
    Alike (g.visit corpus mode l) (g'.visit corpus' mode l) := by
  have hsame : SameMeaning (Meaning.ofDeclaration corpus mode g.context.handles l.declaration)
      (Meaning.ofDeclaration corpus' mode g.context.handles l.declaration) :=
    sameMeaning_ofDeclaration hsize
  generalize he : Meaning.ofDeclaration corpus mode g.context.handles l.declaration = e at hsame
  generalize he' : Meaning.ofDeclaration corpus' mode g.context.handles l.declaration = e' at hsame
  rw [h.handles] at he'
  cases hsame with
  | documentation t t' =>
    rw [Generation.visit_of_ok he, Generation.visit_of_ok he']
    exact ⟨h.handles, h.destination, h.diagnostics, h.code⟩
  | refl e =>
    cases e with
    | error fault =>
      rw [Generation.visit_of_error he, Generation.visit_of_error he']
      exact ⟨h.handles, h.destination, congrArg (· ++ [fault.diagnostic l]) h.diagnostics, h.code⟩
    | ok meaning =>
      rw [Generation.visit_of_ok he, Generation.visit_of_ok he']
      obtain ⟨hhandles, hdestination⟩ := Context.apply_eq h.handles h.destination meaning
      refine ⟨hhandles, hdestination, h.diagnostics, ?_⟩
      have hpick : ∀ pending, (meaning.blocks (if meaning.takesComment then
          declarationComment? pending else none)).flatMap (pick codeLine?) =
            (meaning.blocks none).flatMap (pick codeLine?) :=
        pick_blocks_of_ofDeclaration skipsComments_codeLine? he (fun t ht => hl t ht _ (by simp))
          (fun t ht => hl t ht _ (by simp))
          fun b hb => picksHead_codeLine? hb fun t ht => hl t ht _ (by simp)
      have hempty : ∀ pending, (meaning.blocks (if meaning.takesComment then
          declarationComment? pending else none)).isEmpty = (meaning.blocks none).isEmpty :=
        fun _ => meaning.isEmpty_blocks _
      have hmeant := meant_of_ofDeclaration he
      dsimp only
      rw [Context.fst_apply, Context.fst_apply,
        Output.code_emit (Output.separator_of_head? (hmeant.head?_ne _)),
        Output.code_emit (Output.separator_of_head? (hmeant.head?_ne _)),
        hempty, hempty, hdestination, h.code, codeLines, codeLines, pick_groupText, pick_groupText,
        hpick, hpick]

/-- Runs that are alike stay alike. -/
theorem Alike.run (h : Alike g g') (hsize : corpus.size = corpus'.size) {ls : List Located}
    (hls : Avoids ['#', '\r', '\n'] ls) : Alike (g.run corpus mode ls) (g'.run corpus' mode ls) := by
  induction ls generalizing g g' with
  | nil => exact h
  | cons l ls ih =>
    exact ih (h.visit hsize (hls l List.mem_cons_self))
      fun l' hl' => hls l' (List.mem_cons_of_mem l hl')

end Runs

/-- Documentation does not decide what code is generated. For a header without number signs and
line ends in its names, types and values, and any two corpora with as many blocks, the same modules
are written in the same order, and without the comments they have the same lines; the same handles
are found and the same declarations are reported. -/
theorem generate_code_eq {corpus corpus' : Corpus} (hsize : corpus.size = corpus'.size)
    (options : GenerationOptions) {ls : List Located} (hls : Avoids ['#', '\r', '\n'] ls) :
    (generate corpus options ls).output.code = (generate corpus' options ls).output.code ∧
      (generate corpus options ls).handleNames = (generate corpus' options ls).handleNames ∧
      (generate corpus options ls).diagnostics = (generate corpus' options ls).diagnostics := by
  have hstart : Alike (Generation.start options) (Generation.start options) :=
    ⟨rfl, rfl, rfl, rfl⟩
  have hrun : Alike (generate corpus options ls) (generate corpus' options ls) :=
    hstart.run hsize hls
  refine ⟨hrun.code, ?_, hrun.diagnostics⟩
  rw [Generation.handleNames, hrun.handles, Generation.handleNames]

/-- An enumeration and a function with an adapter, both with documentation. -/
def documentedHeader : List Located :=
  [{ declaration := .enumeration (some "doc1") none },
    { declaration := .enumeration (some "sfMode") (some [⟨"sfModeOn", none⟩, ⟨"sfModeOff", none⟩]) },
    { declaration := .enumeration (some "doc2") none },
    { declaration := .function ⟨"void", "sfShape_setMode",
      [⟨"sfShape*", some "shape"⟩, ⟨"const sfMode*", some "mode"⟩]⟩ }]

/-- Documentation that looks like code changes the output, but not the code. -/
theorem generate_code_eq_documentedHeader :
    (Corpus.mk ["A mode.", "Set it."]).size = (Corpus.mk ["", "a\nproc f*()"]).size ∧
    Avoids ['#', '\r', '\n'] documentedHeader ∧
    (generate ⟨["A mode.", "Set it."]⟩ {} documentedHeader).output ≠
      (generate ⟨["", "a\nproc f*()"]⟩ {} documentedHeader).output ∧
    (generate ⟨["A mode.", "Set it."]⟩ {} documentedHeader).output.code =
      (generate ⟨["", "a\nproc f*()"]⟩ {} documentedHeader).output.code := by
  have hsize : (Corpus.mk ["A mode.", "Set it."]).size = (Corpus.mk ["", "a\nproc f*()"]).size := rfl
  have havoids : Avoids ['#', '\r', '\n'] documentedHeader := by with_unfolding_all decide
  exact ⟨hsize, havoids, by with_unfolding_all decide, (generate_code_eq hsize {} havoids).1⟩

end Bindery
