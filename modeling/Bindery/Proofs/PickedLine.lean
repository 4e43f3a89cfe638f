import Bindery.Proofs.Comment
import Bindery.Proofs.Layout
import Bindery.Proofs.Signs

/-!
# Lines picked from texts

A rule that looks at one line at a time picks something from the lines of a text. What it picks
from texts that stand one under the other is what it picks from each. A rule that picks nothing
from the lines of comments picks the same from a binding with a comment as from one without.
-/

namespace Bindery

namespace Text

variable {f : Text → Option Text}

/-- What a rule picks from the lines of a text, in order. -/
def pick (f : Text → Option Text) (t : Text) : List Text := (t.splitOn '\n').filterMap f

/-- From two texts with a line feed in between, a rule picks what it picks from either. -/
theorem pick_append_lineFeed (s t : Text) : pick f (s ++ '\n' :: t) = pick f s ++ pick f t := by
  rw [pick, List.splitOn_append_cons_self, List.filterMap_append, pick, pick]

theorem pick_of_lineFeed_not_mem {t : Text} (h : '\n' ∉ t) : pick f t = (f t).toList := by
  rw [pick, List.splitOn_eq_singleton h]
  cases hf : f t <;> simp [hf]

@[simp] theorem pick_nil : pick f [] = (f []).toList := pick_of_lineFeed_not_mem List.not_mem_nil

/-- From texts one under the other, a rule picks what it picks from each. -/
theorem pick_unlines {ts : List Text} (h : ts ≠ []) : pick f (unlines ts) = ts.flatMap (pick f) := by
  induction ts with
  | nil => exact absurd rfl h
  | cons t ts ih =>
    cases ts with
    | nil => rw [unlines_singleton, List.flatMap_singleton]
    | cons s ts =>
      rw [unlines_cons_cons, pick_append_lineFeed, ih (List.cons_ne_nil s ts), ← List.flatMap_cons]

theorem lineFeed_not_mem_of_mem_splitOn {t line : Text} (h : line ∈ t.splitOn '\n') :
    '\n' ∉ line :=
  fun hmem => Bool.false_ne_true (eq_false_of_mem_splitOnP h _ hmem).symm

/-- A line of words behind an indentation is one line, if the indentation is. -/
theorem lineFeed_not_mem_of_mem_wrap {width : Nat} {indent t line : Text} (hindent : '\n' ∉ indent)
    (h : line ∈ wrap width indent t) : '\n' ∉ line := by
  obtain ⟨line', hline', rfl⟩ := List.mem_map.mp h
  rw [wordLine, List.mem_append, not_or]
  refine ⟨hindent, fun hmem => ?_⟩
  rcases mem_of_mem_intercalate hmem with hmem | ⟨word, hword, hmem⟩
  · exact absurd hmem (by decide)
  · have hwords := List.mem_flatten.mpr ⟨line', hline', hword⟩
    rw [flatten_fill] at hwords
    exact absurd (isBlank_eq_false_of_mem_words hwords _ hmem) (by decide)

theorem dropReturn_subset (t : Text) : dropReturn t ⊆ t := by
  unfold dropReturn
  split
  · exact (List.dropLast_sublist t).subset
  · exact List.Subset.refl t

/-- No line has a line feed in it. -/
theorem lineFeed_not_mem_of_mem_lines {t line : Text} (h : line ∈ lines t) : '\n' ∉ line := by
  have hpieces : ∀ pieces : List Text, line ∈ linesOfPieces pieces →
      ∃ piece ∈ pieces, line ⊆ piece := by
    intro pieces hmem
    fun_induction linesOfPieces pieces with
    | case1 => exact absurd hmem List.not_mem_nil
    | case2 last hempty => exact absurd hmem List.not_mem_nil
    | case3 last hempty =>
      rw [List.mem_singleton.mp hmem]
      exact ⟨last, List.mem_cons_self, List.Subset.refl last⟩
    | case4 piece pieces _ ih =>
      rcases List.mem_cons.mp hmem with rfl | hmem
      · exact ⟨piece, List.mem_cons_self, dropReturn_subset piece⟩
      · obtain ⟨piece', hpiece, hsub⟩ := ih hmem
        exact ⟨piece', List.mem_cons_of_mem piece hpiece, hsub⟩
  obtain ⟨piece, hpiece, hsub⟩ := hpieces _ h
  exact fun hfeed => lineFeed_not_mem_of_mem_splitOn hpiece (hsub hfeed)

private theorem linesOfPieces_eq_self {pieces : List Text} (hlast : [] ∉ pieces.getLast?)
    (hreturn : ∀ piece ∈ pieces, '\r' ∉ piece) : linesOfPieces pieces = pieces := by
  fun_induction linesOfPieces pieces with
  | case1 => rfl
  | case2 last hempty => exact absurd (congrArg some (List.isEmpty_iff.mp hempty)) hlast
  | case3 last hempty => rfl
  | case4 piece pieces hne ih =>
    have hpiece : dropReturn piece = piece := by
      unfold dropReturn
      split
      · next hreturn' =>
        exact absurd (List.mem_of_getLast? hreturn') (hreturn piece List.mem_cons_self)
      · rfl
    obtain ⟨next, rest, rfl⟩ := List.exists_cons_of_ne_nil hne
    rw [hpiece, ih (by rwa [List.getLast?_cons_cons] at hlast)
      fun p hp => hreturn p (List.mem_cons_of_mem piece hp)]

private theorem getLast?_splitOn_concat (s : Text) {c : Char} (hc : c ≠ '\n') :
    [] ∉ ((s ++ [c]).splitOn '\n').getLast? := by
  induction s with
  | nil =>
    rw [List.nil_append, List.splitOn_eq_singleton fun hmem => hc (List.mem_singleton.mp hmem).symm]
    exact nofun
  | cons d s ih =>
    rw [List.cons_append, List.splitOn_cons_eq_if_modifyHead]
    obtain ⟨piece, pieces, hsplit⟩ :=
      List.exists_cons_of_ne_nil (List.splitOn_ne_nil '\n' (s ++ [c]))
    rw [hsplit] at ih ⊢
    split
    · rwa [List.getLast?_cons_cons]
    · rw [List.modifyHead_cons]
      cases pieces with
      | nil => exact nofun
      | cons next pieces => rwa [List.getLast?_cons_cons] at ih ⊢

/-- The lines of a text without carriage returns that ends within a line are the pieces between
its line feeds. -/
theorem lines_eq_splitOn {s : Text} {c : Char} (hc : c ≠ '\n') (hreturn : '\r' ∉ s ++ [c]) :
    lines (s ++ [c]) = (s ++ [c]).splitOn '\n' :=
  linesOfPieces_eq_self (getLast?_splitOn_concat s hc) fun _ hpiece hmem =>
    hreturn (subset_of_mem_splitOn hpiece hmem)

end Text

/-! ## Comments -/

/-- What stands before every line of the comment on a declaration. -/
def commentLead : Text := List.replicate commentIndent ' ' ++ commentMark

/-- A line of the comment on a declaration. -/
structure IsCommentLine (line : Text) : Prop where
  /-- It begins with the mark. -/
  lead : ∃ t, line = commentLead ++ t
  /-- It is one line. -/
  lineFeed : '\n' ∉ line

/-- The comment on a declaration has at least one line. -/
theorem declarationComment?_eq_some {pending : Option Text} {c : Text}
    (h : declarationComment? pending = some c) : ∃ first rest,
      c = Text.unlines (first :: rest) ∧ ∀ line ∈ first :: rest, IsCommentLine line := by
  rw [declarationComment?_eq] at h
  obtain ⟨t, _, ht⟩ := Option.bind_eq_some_iff.mp h
  unfold commentOn? at ht
  split at ht
  · cases ht
  · next hne =>
    cases ht
    obtain ⟨first, rest, hlines⟩ := List.exists_cons_of_ne_nil (mt Text.lines_eq_nil_iff.mp hne)
    have hlead : '\n' ∉ commentLead := by with_unfolding_all decide
    have hline : ∀ line ∈ Text.lines t, IsCommentLine (commentLead ++ line) := by
      intro line hmem
      refine ⟨⟨line, rfl⟩, ?_⟩
      rw [List.mem_append, not_or]
      exact ⟨hlead, Text.lineFeed_not_mem_of_mem_lines hmem⟩
    refine ⟨commentLead ++ first, rest.map (commentLead ++ ·), ?_, ?_⟩
    · rw [comment, hlines, List.map_cons]
      rfl
    · intro line hmem
      rw [← List.map_cons, ← hlines] at hmem
      obtain ⟨line', hmem', rfl⟩ := List.mem_map.mp hmem
      exact hline line' hmem'

/-- A rule that picks nothing from the lines of comments. -/
def SkipsComments (f : Text → Option Text) : Prop := ∀ t, f (commentLead ++ t) = none

section Picked

open Text (pick)

variable {f : Text → Option Text}

theorem pick_unlines_of_isCommentLine (hf : SkipsComments f) {lines : List Text}
    (h : ∀ line ∈ lines, IsCommentLine line) : lines.flatMap (pick f) = [] := by
  rw [List.flatMap_eq_nil_iff]
  intro line hline
  obtain ⟨⟨t, rfl⟩, hfeed⟩ := h line hline
  rw [Text.pick_of_lineFeed_not_mem hfeed, hf t]
  rfl

/-- Nothing is picked from the comment on a declaration. -/
theorem pick_declarationComment? (hf : SkipsComments f) {pending : Option Text} {c : Text}
    (h : declarationComment? pending = some c) : pick f c = [] := by
  obtain ⟨first, rest, rfl, hlines⟩ := declarationComment?_eq_some h
  rw [Text.pick_unlines (List.cons_ne_nil first rest), pick_unlines_of_isCommentLine hf hlines]

/-- Every block of a group is followed by a line feed, and so is the group. -/
theorem pick_groupText (blocks : List Text) :
    pick f (Output.groupText blocks) = blocks.flatMap (pick f) ++ (f []).toList := by
  induction blocks with
  | nil => exact Text.pick_nil
  | cons block blocks ih =>
    have hcons : Output.groupText (block :: blocks) = block ++ '\n' :: Output.groupText blocks := by
      simp [Output.groupText]
    rw [hcons, Text.pick_append_lineFeed, ih, List.flatMap_cons, List.append_assoc]

namespace Binding

/-- A text without carriage returns that ends within a line. -/
def EndsInLine (t : Text) : Prop := '\r' ∉ t ∧ ∃ s c, t = s ++ [c] ∧ c ≠ '\n'

/-- From a form with a comment, a rule that skips comments picks what it picks from the form. -/
theorem pick_commentForm {form comment : Text} (hform : EndsInLine form)
    (hcomment : pick f comment = []) : pick f (commentForm comment form) = pick f form := by
  obtain ⟨hreturn, s, c, rfl, hc⟩ := hform
  unfold commentForm
  split
  · rw [List.append_assoc, List.singleton_append, Text.pick_append_lineFeed, hcomment,
      List.append_nil]
  · obtain ⟨first, rest, hsplit⟩ :=
      List.exists_cons_of_ne_nil (List.splitOn_ne_nil '\n' (s ++ [c]))
    have hunlines : Text.unlines (first :: rest) = s ++ [c] := by
      rw [← hsplit]
      exact List.intercalate_splitOn '\n'
    rw [Text.lines_eq_splitOn hc hreturn, hsplit]
    dsimp only
    rw [Text.pick_unlines (List.cons_ne_nil _ _), List.flatMap_cons, List.flatMap_cons, hcomment,
      List.nil_append, ← List.flatMap_cons, ← Text.pick_unlines (List.cons_ne_nil first rest),
      hunlines]

theorem pick_commentLast {forms : List Text} {comment : Text}
    (hforms : ∀ form ∈ forms, EndsInLine form) (hcomment : pick f comment = []) :
    (commentLast comment forms).flatMap (pick f) = forms.flatMap (pick f) := by
  fun_induction commentLast comment forms with
  | case1 => rfl
  | case2 form =>
    rw [List.flatMap_singleton, List.flatMap_singleton,
      pick_commentForm (hforms form List.mem_cons_self) hcomment]
  | case3 form forms _ ih =>
    rw [List.flatMap_cons, List.flatMap_cons,
      ih fun form' hmem => hforms form' (List.mem_cons_of_mem form hmem)]

/-- A binding whose comment stands on lines of its own, or behind a head of one line. -/
def IsLined : Binding → Prop
  | procedure forms => forms ≠ [] ∧ ∀ form ∈ forms, EndsInLine form
  | enumeration head _ => '\n' ∉ head
  | plain _ | object _ _ => True

/-- Whether a rule picks the same from the head of an enumeration with a comment behind it. -/
def PicksHead (f : Text → Option Text) : Binding → Prop
  | enumeration head _ => ∀ t, f (head ++ (commentLead ++ t)) = f head
  | _ => True

theorem pick_head {head : Text} (hf : SkipsComments f)
    (hhead : ∀ t, f (head ++ (commentLead ++ t)) = f head) (hfeed : '\n' ∉ head)
    {pending : Option Text} {c : Text} (h : declarationComment? pending = some c) :
    pick f (head ++ c) = pick f head := by
  obtain ⟨first, rest, rfl, hlines⟩ := declarationComment?_eq_some h
  have hunlines : head ++ Text.unlines (first :: rest) = Text.unlines ((head ++ first) :: rest) := by
    cases rest <;> simp
  obtain ⟨⟨t, rfl⟩, hfirst⟩ := hlines first List.mem_cons_self
  have hline : '\n' ∉ head ++ (commentLead ++ t) := by
    rw [List.mem_append, not_or]
    exact ⟨hfeed, hfirst⟩
  rw [hunlines, Text.pick_unlines (List.cons_ne_nil _ _), List.flatMap_cons,
    pick_unlines_of_isCommentLine hf fun line hline => hlines line (List.mem_cons_of_mem _ hline),
    List.append_nil, Text.pick_of_lineFeed_not_mem hline, hhead t,
    Text.pick_of_lineFeed_not_mem hfeed]

/-- From a binding with a comment, a rule that skips comments picks what it picks from the binding
without one. -/
theorem pick_blocks {b : Binding} (hf : SkipsComments f) (hb : b.IsLined) (hhead : b.PicksHead f)
    (pending : Option Text) :
    (b.blocks (declarationComment? pending)).flatMap (pick f) = (b.blocks none).flatMap (pick f) := by
  cases hcomment : declarationComment? pending with
  | none => rfl
  | some c =>
    have hc := pick_declarationComment? hf hcomment
    cases b with
    | plain blocks => rfl
    | procedure forms =>
      obtain ⟨hne, hforms⟩ := hb
      have hne' : commentLast c forms ≠ [] := by
        intro hnil
        obtain ⟨form, hmem, _⟩ := exists_mem_commentLast hne c
        rw [hnil] at hmem
        cases hmem
      simp only [blocks, List.flatMap_singleton]
      rw [Text.pick_unlines hne', Text.pick_unlines hne, pick_commentLast hforms hc]
    | enumeration head members =>
      simp only [blocks, Option.getD_some, Option.getD_none, List.append_nil, List.flatMap_cons]
      rw [pick_head hf hhead hb hcomment]
    | object head fields => simp [blocks, hc]

end Binding

/-! ## Declarations -/

section Declarations

variable {corpus : Corpus} {mode : UnionMode} {handles : Handles} {d : Declaration}

private theorem endsInLine_unlines (first : List Text) {last s : Text} {c : Char}
    (hlast : last = s ++ [c]) (hc : c ≠ '\n') (hreturn : ∀ line ∈ first ++ [last], '\r' ∉ line) :
    Binding.EndsInLine (Text.unlines (first ++ [last])) := by
  constructor
  · intro hmem
    obtain ⟨line, hline, hmem⟩ := Text.mem_of_mem_unlines (by decide) hmem
    exact hreturn line hline hmem
  · have hend : ∃ t, Text.unlines (first ++ [last]) = t ++ last := by
      clear hreturn
      induction first with
      | nil => exact ⟨[], by simp⟩
      | cons line first ih =>
        obtain ⟨t, ht⟩ := ih
        obtain ⟨next, rest, hcons⟩ := List.exists_cons_of_ne_nil
          (List.append_ne_nil_of_right_ne_nil first (List.cons_ne_nil last []))
        refine ⟨line ++ '\n' :: t, ?_⟩
        rw [List.cons_append, hcons, Text.unlines_cons_cons, ← hcons, ht, List.append_assoc,
          List.cons_append]
    obtain ⟨t, ht⟩ := hend
    exact ⟨t ++ s, c, by rw [ht, hlast, List.append_assoc], hc⟩

/-- The forms of a function without carriage returns end within a line. -/
theorem endsInLine_of_mem_forms {s : Signature} (hreturn : ∀ t ∈ s.texts, '\r' ∉ t)
    {p : ProcedureHead × List BoundParam} (hp : procedureOf handles s = .ok p) :
    ∀ form ∈ p.1.forms p.2, Binding.EndsInLine form := by
  have hrare : IsRareSign '\r' := by decide
  obtain ⟨hsymbol, hlacks⟩ := lacksSign_of_procedureOf hrare hreturn hp
  obtain ⟨adapters, hforms, hadapters⟩ := p.1.forms_eq_cons p.2
  rw [hforms]
  intro form hform
  rcases List.mem_cons.mp hform with rfl | hform
  · obtain ⟨first, hlines, _, hfirst⟩ := p.1.form_nil_eq p.2
    rw [hlines]
    refine endsInLine_unlines [first] (c := '\x7d')
      (s := ProcedureHead.importLead ++ p.1.symbol ++ ['"', '.']) ?_ (by decide) ?_
    · rw [ProcedureHead.importLine, ProcedureHead.importEnd, Text.ofString_eq, List.append_assoc,
        List.append_assoc, List.append_assoc]
      rfl
    · intro line hline
      rcases List.mem_cons.mp hline with rfl | hline
      · exact hfirst _ hrare hlacks
      · rw [List.mem_singleton.mp hline, hsymbol]
        exact ProcedureHead.lineEnd_not_mem_importLine (Or.inl rfl) (hreturn _ List.mem_cons_self)
  · obtain ⟨places, hne, rfl⟩ := hadapters form hform
    obtain ⟨first, second, third, hlines, _, _, _, hlack⟩ := p.1.form_adapter_eq p.2 hne
    obtain ⟨hfirst, hsecond, hthird⟩ := hlack _ hrare hlacks
    rw [hlines]
    refine endsInLine_unlines [first, second] rfl (by decide) ?_
    intro line hline
    simp only [List.cons_append, List.nil_append, List.mem_cons, List.not_mem_nil, or_false] at hline
    rcases hline with rfl | rfl | rfl
    · exact hfirst
    · exact hsecond
    · exact hthird

/-- The head of an enumeration has no rare sign but those of its name. -/
theorem not_mem_head {c : Char} (hc : IsRareSign c) {name bare : Text}
    (hname : bareName name = .ok bare) (h : c ∉ name) :
    c ∉ Text.ofString "type " ++ bare ++
      Text.ofString "* \x7b.pure, size: sizeof(cint).\x7d = enum" := by
  have hmarks := hasNoRareSign_written.not_mem hc
  simp only [List.mem_append, List.mem_cons, List.not_mem_nil, or_false, not_or] at hmarks
  have hbare : c ∉ bare := fun hmem => h (mem_of_mem_bareName hc hname hmem)
  simp [hmarks, hbare]

/-- Without line ends in its names and types, a declaration is bound in lines. -/
theorem isLined_of_boundAs {b : Binding} (h : BoundAs handles d b)
    (hreturn : ∀ t ∈ d.texts, '\r' ∉ t) (hfeed : ∀ t ∈ d.texts, '\n' ∉ t) : b.IsLined := by
  cases h with
  | procedure hd hp =>
    subst hd
    exact ⟨ProcedureHead.forms_ne_nil, endsInLine_of_mem_forms hreturn hp⟩
  | enumeration hd hname =>
    subst hd
    exact not_mem_head (by decide) hname (hfeed _ List.mem_cons_self)
  | plain => trivial
  | object => trivial

/-- Whatever waits to become its comment, a rule that skips comments picks the same from a
declaration. -/
theorem pick_blocks_of_ofDeclaration {meaning : Meaning} (hf : SkipsComments f)
    (hmeaning : Meaning.ofDeclaration corpus mode handles d = .ok meaning)
    (hreturn : ∀ t ∈ d.texts, '\r' ∉ t) (hfeed : ∀ t ∈ d.texts, '\n' ∉ t)
    (hhead : ∀ b, BoundAs handles d b → b.PicksHead f) (pending : Option Text) :
    (meaning.blocks (if meaning.takesComment then declarationComment? pending else none)).flatMap
        (pick f) = (meaning.blocks none).flatMap (pick f) := by
  have hbound : ∀ b, meaning = .binding b ∨ (∃ name, meaning = .handle name b) →
      (b.blocks (if b.takesComment then declarationComment? pending else none)).flatMap (pick f) =
        (b.blocks none).flatMap (pick f) := by
    intro b hb
    have h := boundAs_of_ofDeclaration hmeaning hb
    cases b.takesComment with
    | false => rfl
    | true => exact Binding.pick_blocks hf (isLined_of_boundAs h hreturn hfeed) (hhead b h) pending
  cases meaning with
  | binding b => exact hbound b (Or.inl rfl)
  | handle name b => exact hbound b (Or.inr ⟨name, rfl⟩)
  | documentation t => rfl
  | destination key banner => rfl

end Declarations

end Picked

end Bindery
