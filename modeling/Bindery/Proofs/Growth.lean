import Bindery.Proofs.ParameterPassing

/-!
# Runs only add

A visit writes behind what was written, reports behind what was reported, and forgets no handle.
So whatever follows in a header, what was generated for its beginning stays where it is.
-/

namespace Bindery

namespace Output

/-- An output behind another one: its modules go on from those of the other one, and so does the
text of each of them. -/
structure Grows (o o' : Output) : Prop where
  keys : o.keys <+: o'.keys
  texts : ∀ key t, o.text? key = some t → ∃ t', o'.text? key = some t' ∧ t <+: t'

theorem Grows.refl (o : Output) : Grows o o :=
  ⟨List.prefix_refl o.keys, fun _ t ht => ⟨t, ht, List.prefix_refl t⟩⟩

theorem Grows.trans {o o' o'' : Output} (h : o.Grows o') (h' : o'.Grows o'') : o.Grows o'' := by
  refine ⟨h.keys.trans h'.keys, fun key t ht => ?_⟩
  obtain ⟨t', ht', hprefix⟩ := h.texts key t ht
  obtain ⟨t'', ht'', hprefix'⟩ := h'.texts key t' ht'
  exact ⟨t'', ht'', hprefix.trans hprefix'⟩

/-- A group is written behind everything else. -/
theorem grows_emit (o : Output) (key : Text) (blocks : List Text) :
    o.Grows (o.emit key blocks) := by
  unfold emit
  split
  · exact Grows.refl o
  constructor
  · change o.keys <+: (addTo key blocks o.modules).map (·.1)
    rw [keys_addTo]
    split
    · exact List.prefix_refl o.keys
    · exact List.prefix_append o.keys [key]
  · intro key' t ht
    rw [text?] at ht
    by_cases hkey : key' = key
    · subst hkey
      refine ⟨t ++ separator blocks ++ groupText blocks, ?_, ?_⟩
      · rw [text?, lookup_addTo, ht]
      · rw [List.append_assoc]
        exact List.prefix_append t _
    · refine ⟨t, ?_, List.prefix_refl t⟩
      rw [text?, lookup_addTo_of_ne hkey, ht]

end Output

namespace Generation

/-- A run behind another one: it has the output, the reports and the handles of the other one, and
perhaps more. -/
structure Grows (g g' : Generation) : Prop where
  output : g.output.Grows g'.output
  diagnostics : g.diagnostics <+: g'.diagnostics
  handles : g.context.handles ⊆ g'.context.handles

theorem Grows.refl (g : Generation) : Grows g g :=
  ⟨Output.Grows.refl g.output, List.prefix_refl g.diagnostics, List.Subset.refl g.context.handles⟩

theorem Grows.trans {g g' g'' : Generation} (h : g.Grows g') (h' : g'.Grows g'') : g.Grows g'' :=
  ⟨h.output.trans h'.output, h.diagnostics.trans h'.diagnostics,
    List.Subset.trans h.handles h'.handles⟩

/-- A visit only adds. -/
theorem grows_visit (corpus : Corpus) (mode : UnionMode) (g : Generation) (l : Located) :
    g.Grows (g.visit corpus mode l) := by
  have hhandles : g.context.handles ⊆ (g.visit corpus mode l).context.handles :=
    fun _ hbare => mem_handles_visit.mpr (Or.inl hbare)
  cases hmeaning : Meaning.ofDeclaration corpus mode g.context.handles l.declaration with
  | error fault =>
    rw [visit_of_error hmeaning] at hhandles ⊢
    exact ⟨Output.Grows.refl g.output, List.prefix_append g.diagnostics _, hhandles⟩
  | ok meaning =>
    rw [visit_of_ok hmeaning] at hhandles ⊢
    exact ⟨Output.grows_emit g.output _ _, List.prefix_refl g.diagnostics, hhandles⟩

/-- A run only adds, visit by visit. -/
theorem grows_run (corpus : Corpus) (mode : UnionMode) (g : Generation) (ls : List Located) :
    g.Grows (g.run corpus mode ls) := by
  induction ls generalizing g with
  | nil => exact Grows.refl g
  | cons l ls ih => exact (grows_visit corpus mode g l).trans (ih (g.visit corpus mode l))

theorem handleNames_subset {g g' : Generation} (h : g.context.handles ⊆ g'.context.handles) :
    g.handleNames ⊆ g'.handleNames := by
  intro name hname
  rw [handleNames, List.mem_mergeSort] at hname ⊢
  exact h hname

end Generation

/-- **Generation is append-only.** Whatever follows some declarations in a header, their modules
come first among the modules of the header, the text of each of them is a beginning of its text
there, their reports come first among its reports, and their handles are among its handles. -/
theorem generate_append_only (corpus : Corpus) (options : GenerationOptions)
    (ls rest : List Located) :
    (generate corpus options ls).output.keys <+:
      (generate corpus options (ls ++ rest)).output.keys ∧
    (∀ key t, (generate corpus options ls).output.text? key = some t →
      ∃ t', (generate corpus options (ls ++ rest)).output.text? key = some t' ∧ t <+: t') ∧
    (generate corpus options ls).diagnostics <+:
      (generate corpus options (ls ++ rest)).diagnostics ∧
    (generate corpus options ls).handleNames ⊆
      (generate corpus options (ls ++ rest)).handleNames := by
  have hgrows := (generate corpus options ls).grows_run corpus options.unionMode rest
  rw [generate, ← Generation.run_append] at hgrows
  exact ⟨hgrows.output.keys, hgrows.output.texts, hgrows.diagnostics,
    Generation.handleNames_subset hgrows.handles⟩

end Bindery
