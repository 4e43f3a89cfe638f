import Bindery.Binding.Enumeration
import Bindery.Binding.Record
import Bindery.Output
import Bindery.Proofs.Form

/-!
# What groups of blocks look like

A group that a declaration gives begins at the margin, with a comment or without one, and the
comment that is put into a binding stands in its blocks.
-/

namespace Bindery

namespace Text

/-- Whether a text begins at the margin: with neither a space nor a line end. -/
def isFlush : Text → Bool
  | [] => false
  | c :: _ => c != ' ' && c != '\n' && c != '\r'

theorem isFlush_append {s : Text} (h : isFlush s = true) (t : Text) : isFlush (s ++ t) = true := by
  cases s with
  | nil => cases h
  | cons c s => exact h

/-- A text at the margin does not begin with a space. -/
theorem head?_ne_of_isFlush {t : Text} (h : isFlush t = true) : t.head? ≠ some ' ' := by
  cases t with
  | nil => cases h
  | cons c t =>
    intro hc
    cases hc
    cases h

/-- Lines of which the first one begins at the margin begin there together. -/
theorem isFlush_unlines {t : Text} (h : isFlush t = true) (ts : List Text) :
    isFlush (unlines (t :: ts)) = true := by
  cases ts with
  | nil =>
    rw [unlines_singleton]
    exact h
  | cons s ts =>
    rw [unlines_cons_cons]
    exact isFlush_append h _

/-- Lines stand in what is written of them. -/
theorem infix_unlines {t : Text} {ts : List Text} (h : t ∈ ts) : t <:+: unlines ts := by
  induction ts with
  | nil => cases h
  | cons s ts ih =>
    cases ts with
    | nil =>
      rw [List.mem_singleton] at h
      subst h
      exact ⟨[], [], by simp⟩
    | cons r ts =>
      rw [unlines_cons_cons]
      rcases List.mem_cons.mp h with rfl | h
      · exact (List.prefix_append _ _).isInfix
      · have hbehind := (List.suffix_cons '\n' (unlines (r :: ts))).trans (List.suffix_append s _)
        exact (ih h).trans hbehind.isInfix

private theorem isFlush_dropReturn {t : Text} (h : isFlush t = true) :
    isFlush (dropReturn t) = true := by
  unfold dropReturn
  split
  · next hlast =>
    cases t with
    | nil => cases h
    | cons c t =>
      cases t with
      | nil =>
        cases hlast
        cases h
      | cons d t => exact h
  · exact h

/-- A text at the margin has a first line, and that is at the margin too. -/
theorem exists_lines_of_isFlush {t : Text} (h : isFlush t = true) :
    ∃ first rest, lines t = first :: rest ∧ isFlush first = true := by
  cases t with
  | nil => cases h
  | cons c t =>
    have hc : (c == '\n') = false := by
      rw [beq_eq_false_iff_ne]
      rintro rfl
      cases h
    obtain ⟨piece, pieces, hsplit⟩ := List.exists_cons_of_ne_nil (List.splitOn_ne_nil '\n' t)
    have hpiece : isFlush (c :: piece) = true := h
    rw [lines, List.splitOn_cons_eq_if_modifyHead, hc, hsplit]
    cases pieces with
    | nil => exact ⟨c :: piece, [], rfl, hpiece⟩
    | cons next pieces => exact ⟨_, _, rfl, isFlush_dropReturn hpiece⟩

end Text

/-- Blocks stand in the text of their group. -/
theorem Output.infix_groupText {block : Text} {blocks : List Text} (h : block ∈ blocks) :
    block <:+: groupText blocks := by
  obtain ⟨before, after, rfl⟩ := List.append_of_mem h
  refine ⟨groupText before, '\n' :: groupText after, ?_⟩
  simp [groupText]

namespace Binding

/-- A form at the margin stays there when it gets a comment. -/
theorem isFlush_commentForm {form : Text} (h : form.isFlush = true) (comment : Text) :
    (commentForm comment form).isFlush = true := by
  unfold commentForm
  split
  · rw [List.append_assoc]
    exact Text.isFlush_append h _
  · obtain ⟨first, rest, hlines, hfirst⟩ := Text.exists_lines_of_isFlush h
    rw [hlines]
    exact Text.isFlush_unlines hfirst _

/-- The comment stands in the form that gets it. -/
theorem infix_commentForm (comment form : Text) : comment <:+: commentForm comment form := by
  unfold commentForm
  split
  · exact (List.suffix_append _ _).isInfix
  · split
    · exact Text.infix_unlines (List.mem_cons_of_mem _ List.mem_cons_self)
    · exact List.infix_rfl

/-- Forms at the margin stay there when the last of them gets a comment. -/
theorem isFlush_of_mem_commentLast {forms : List Text} (h : ∀ form ∈ forms, form.isFlush = true)
    (comment : Text) : ∀ form ∈ commentLast comment forms, form.isFlush = true := by
  induction forms with
  | nil => exact h
  | cons form forms ih =>
    cases forms with
    | nil =>
      intro commented hmem
      rw [List.mem_singleton.mp hmem]
      exact isFlush_commentForm (h form List.mem_cons_self) comment
    | cons next forms =>
      intro commented hmem
      rcases List.mem_cons.mp hmem with rfl | hmem
      · exact h commented List.mem_cons_self
      · exact ih (fun form hform => h form (List.mem_cons_of_mem _ hform)) commented hmem

/-- The last form of some has the comment in it. -/
theorem exists_mem_commentLast {forms : List Text} (h : forms ≠ []) (comment : Text) :
    ∃ form ∈ commentLast comment forms, comment <:+: form := by
  induction forms with
  | nil => exact absurd rfl h
  | cons form forms ih =>
    cases forms with
    | nil => exact ⟨_, List.mem_cons_self, infix_commentForm comment form⟩
    | cons next forms =>
      obtain ⟨commented, hmem, hcomment⟩ := ih (List.cons_ne_nil next forms)
      exact ⟨commented, List.mem_cons_of_mem form hmem, hcomment⟩

/-- A binding with its blocks, and its forms if it has any, at the margin. -/
def IsFlush : Binding → Prop
  | plain blocks => ∀ block ∈ blocks.head?, block.isFlush = true
  | procedure forms => forms ≠ [] ∧ ∀ form ∈ forms, form.isFlush = true
  | enumeration head _ => head.isFlush = true
  | object head _ => head.isFlush = true

private theorem isFlush_unlines_of_forall {forms : List Text} (hne : forms ≠ [])
    (h : ∀ form ∈ forms, form.isFlush = true) : (Text.unlines forms).isFlush = true := by
  obtain ⟨form, rest, rfl⟩ := List.exists_cons_of_ne_nil hne
  exact Text.isFlush_unlines (h form List.mem_cons_self) rest

/-- The blocks of a binding at the margin begin there, whatever the comment. -/
theorem IsFlush.blocks {b : Binding} (h : b.IsFlush) (comment : Option Text) :
    ∀ block ∈ (b.blocks comment).head?, block.isFlush = true := by
  intro block hblock
  cases b with
  | plain blocks => exact h block hblock
  | procedure forms =>
    obtain ⟨hne, hforms⟩ := h
    cases comment with
    | none =>
      cases hblock
      exact isFlush_unlines_of_forall hne hforms
    | some c =>
      cases hblock
      obtain ⟨form, hmem, _⟩ := exists_mem_commentLast hne c
      have hcommented := isFlush_of_mem_commentLast hforms c
      exact isFlush_unlines_of_forall (List.ne_nil_of_mem hmem) hcommented
  | enumeration head members =>
    cases hblock
    exact Text.isFlush_append h _
  | object head fields =>
    cases hblock
    exact h

/-- A comment that there is a place for stands in the group that the binding gives. -/
theorem IsFlush.comment_infix {b : Binding} (h : b.IsFlush) (htakes : b.takesComment = true)
    (comment : Text) : comment <:+: Output.groupText (b.blocks (some comment)) := by
  have hblock : ∃ block ∈ b.blocks (some comment), comment <:+: block := by
    cases b with
    | plain blocks => cases htakes
    | procedure forms =>
      obtain ⟨form, hmem, hform⟩ := exists_mem_commentLast h.1 comment
      exact ⟨_, List.mem_cons_self, hform.trans (Text.infix_unlines hmem)⟩
    | enumeration head members =>
      exact ⟨_, List.mem_cons_self, (List.suffix_append head comment).isInfix⟩
    | object head fields =>
      exact ⟨comment, List.mem_cons_of_mem head List.mem_cons_self, List.infix_rfl⟩
  obtain ⟨block, hmem, hinfix⟩ := hblock
  exact hinfix.trans (Output.infix_groupText hmem)

end Binding

namespace ProcedureHead

/-- The forms of a procedure begin at the margin. -/
theorem isFlush_of_mem_forms {h : ProcedureHead} {params : List BoundParam} :
    ∀ form ∈ h.forms params, form.isFlush = true := by
  have hproc : (Text.ofString "proc ").isFlush = true := by with_unfolding_all decide
  have hdeclare : ∀ t, (h.declare t).isFlush = true := by
    intro t
    simp only [declare, List.append_assoc]
    exact Text.isFlush_append hproc _
  intro form hmem
  obtain ⟨chosenPlaces, _, rfl⟩ := mem_forms_iff.mp hmem
  obtain ⟨rest, hrest⟩ := h.declare_prefix_form params chosenPlaces
  rw [← hrest]
  exact Text.isFlush_append (hdeclare _) rest

/-- A procedure has a form: the foreign one. -/
theorem forms_ne_nil {h : ProcedureHead} {params : List BoundParam} : h.forms params ≠ [] := by
  obtain ⟨adapters, hforms, _⟩ := h.forms_eq_cons params
  rw [hforms]
  exact List.cons_ne_nil _ adapters

end ProcedureHead

end Bindery
