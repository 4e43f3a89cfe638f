import Bindery.Proofs.Meaning
import Bindery.Proofs.Visit
import Mathlib.Data.List.Induction

/-!
# Outputs and logs

The log of a run has an entry for every group that was written, with the module that was opened
last before it. An output is known from the log alone: its modules are those of the entries, and
the text of a module is made of the groups of its entries.
-/

namespace Bindery

/-- A group of blocks for a module. -/
structure Entry where
  /-- The module. -/
  key : Text
  /-- The blocks. -/
  blocks : List Text
  deriving DecidableEq, Repr

/-- An entry with a group that begins at the margin. -/
def Entry.IsFlush (e : Entry) : Prop :=
  ∃ block rest, e.blocks = block :: rest ∧ block.head? ≠ some ' '

/-- The groups that entries have for a module. -/
def groupsOf (key : Text) (entries : List Entry) : List (List Text) :=
  (entries.filter (·.key = key)).map (·.blocks)

/-- Groups with an empty line between any two of them; no groups are no text. -/
def groupsText? : List (List Text) → Option Text
  | [] => none
  | group :: groups =>
    some (Output.groupText group ++ groups.flatMap fun g => '\n' :: Output.groupText g)

namespace Output

/-- Write a group to its module. -/
def write (o : Output) (e : Entry) : Output := o.emit e.key e.blocks

/-- A group that begins at the margin is set apart from the one before it. -/
theorem separator_of_isFlush {e : Entry} (h : e.IsFlush) : separator e.blocks = ['\n'] := by
  obtain ⟨block, rest, hblocks, hhead⟩ := h
  rw [hblocks]
  unfold separator
  split
  · next hspace =>
    cases hspace
    exact absurd rfl hhead
  · rfl

theorem keys_addTo (key : Text) (blocks : List Text) (modules : List (Text × Text)) :
    (addTo key blocks modules).map (·.1) =
      if key ∈ modules.map (·.1) then modules.map (·.1) else modules.map (·.1) ++ [key] := by
  induction modules with
  | nil => rfl
  | cons m modules ih =>
    obtain ⟨k, t⟩ := m
    unfold addTo
    by_cases hk : k = key
    · simp [hk]
    · rw [if_neg hk, List.map_cons, ih, List.map_cons]
      simp only [List.mem_cons, Ne.symm hk, false_or]
      split <;> rfl

/-- Writing a group adds its module at the end, unless it is there already. -/
theorem keys_write {o : Output} {e : Entry} (h : e.IsFlush) :
    (o.write e).keys = if e.key ∈ o.keys then o.keys else o.keys ++ [e.key] := by
  obtain ⟨block, rest, hblocks, _⟩ := h
  rw [write, hblocks]
  exact keys_addTo e.key _ o.modules

theorem lookup_addTo (key : Text) (blocks : List Text) (modules : List (Text × Text)) :
    (addTo key blocks modules).lookup key = some (match modules.lookup key with
      | some t => t ++ separator blocks ++ groupText blocks
      | none => groupText blocks) := by
  induction modules with
  | nil => simp [addTo]
  | cons m modules ih =>
    obtain ⟨k, t⟩ := m
    unfold addTo
    by_cases hk : k = key
    · simp [hk]
    · have hne : (key == k) = false := beq_eq_false_iff_ne.mpr (Ne.symm hk)
      rw [if_neg hk, List.lookup_cons, hne, ih, List.lookup_cons, hne]

theorem lookup_addTo_of_ne {key key' : Text} (h : key' ≠ key) (blocks : List Text)
    (modules : List (Text × Text)) :
    (addTo key blocks modules).lookup key' = modules.lookup key' := by
  induction modules with
  | nil => simp [addTo, h]
  | cons m modules ih =>
    obtain ⟨k, t⟩ := m
    unfold addTo
    by_cases hk : k = key
    · have hne : (key' == k) = false := beq_eq_false_iff_ne.mpr (hk ▸ h)
      rw [if_pos hk, List.lookup_cons, hne, List.lookup_cons, hne]
    · rw [if_neg hk, List.lookup_cons, List.lookup_cons, ih]

/-- Writing a group adds it to the text of its module. -/
theorem text?_write {o : Output} {e : Entry} (h : e.IsFlush) :
    (o.write e).text? e.key = some (match o.text? e.key with
      | some t => t ++ '\n' :: groupText e.blocks
      | none => groupText e.blocks) := by
  have hseparator := separator_of_isFlush h
  obtain ⟨block, rest, hblocks, _⟩ := h
  rw [write, emit, hblocks, List.isEmpty_cons, if_neg Bool.false_ne_true, ← hblocks, text?,
    lookup_addTo, hseparator, text?]
  cases o.modules.lookup e.key <;> simp

/-- Writing a group leaves the texts of all other modules as they are. -/
theorem text?_write_of_ne {o : Output} {e : Entry} {key : Text} (h : key ≠ e.key) :
    (o.write e).text? key = o.text? key := by
  unfold write emit
  split
  · rfl
  · exact lookup_addTo_of_ne h e.blocks o.modules

/-- The modules of what was written are those of the entries, in the order of their first
entries. -/
theorem keys_foldl_write {entries : List Entry} (h : ∀ e ∈ entries, e.IsFlush) :
    (entries.foldl write {}).keys = (entries.map (·.key)).eraseDups := by
  induction entries using List.reverseRecOn with
  | nil => rfl
  | append_singleton entries e ih =>
    have hentries : ∀ e' ∈ entries, e'.IsFlush := fun e' he' => h e' (List.mem_append_left _ he')
    have hlast : e.IsFlush := h e (List.mem_append_right _ List.mem_cons_self)
    rw [List.foldl_append, List.foldl_cons, List.foldl_nil, keys_write hlast, ih hentries,
      List.map_append, List.map_cons, List.map_nil, List.eraseDups_append]
    have hnew : [e.key].removeAll (entries.map (·.key)) =
        if e.key ∈ entries.map (·.key) then [] else [e.key] := by
      rw [List.removeAll, List.filter_singleton, List.elem_eq_mem]
      by_cases hmem : e.key ∈ entries.map (·.key)
      · rw [if_pos hmem, decide_eq_true hmem]
        rfl
      · rw [if_neg hmem, decide_eq_false hmem]
        rfl
    rw [hnew]
    simp only [List.mem_eraseDups]
    split
    · rw [List.eraseDups_nil, List.append_nil]
    · rfl

private theorem groupsText?_append (groups : List (List Text)) (group : List Text) :
    groupsText? (groups ++ [group]) = some (match groupsText? groups with
      | some t => t ++ '\n' :: groupText group
      | none => groupText group) := by
  cases groups with
  | nil => simp [groupsText?]
  | cons first groups => simp [groupsText?]

/-- The text of a module consists of the groups that the entries have for it. -/
theorem text?_foldl_write {entries : List Entry} (h : ∀ e ∈ entries, e.IsFlush) (key : Text) :
    (entries.foldl write {}).text? key = groupsText? (groupsOf key entries) := by
  induction entries using List.reverseRecOn with
  | nil => rfl
  | append_singleton entries e ih =>
    have hentries : ∀ e' ∈ entries, e'.IsFlush := fun e' he' => h e' (List.mem_append_left _ he')
    have hlast : e.IsFlush := h e (List.mem_append_right _ List.mem_cons_self)
    rw [List.foldl_append, List.foldl_cons, List.foldl_nil, groupsOf, List.filter_append,
      List.map_append]
    by_cases hkey : e.key = key
    · subst hkey
      rw [text?_write hlast, ih hentries, List.filter_singleton, decide_eq_true rfl]
      exact (groupsText?_append _ e.blocks).symm
    · rw [text?_write_of_ne (Ne.symm hkey), ih hentries, List.filter_singleton,
        decide_eq_false hkey]
      simp [groupsOf]

end Output

/-- The module of what stands behind some declarations: the one that they opened last. -/
def currentModule (options : GenerationOptions) (ls : List Located) : Text :=
  (ls.filterMap (·.declaration.destination?)).getLast?.getD options.defaultModule

/-- The entry for a declaration behind some others: its blocks, if it gives any. -/
def entryFor? (corpus : Corpus) (options : GenerationOptions) (before : List Located)
    (l : Located) : Option Entry :=
  match (generate corpus options before).outcome corpus options.unionMode l with
  | .ok (block :: blocks) => some ⟨currentModule options (before ++ [l]), block :: blocks⟩
  | _ => none

/-- The entries for the declarations of a run, in their order. -/
def logOf (corpus : Corpus) (options : GenerationOptions) (ls : List Located) : List Entry :=
  (List.range ls.length).filterMap fun i => ls[i]?.bind (entryFor? corpus options (ls.take i))

section Runs

variable {corpus : Corpus} {options : GenerationOptions} {ls : List Located} {l : Located}

/-- A log grows with the run. -/
theorem logOf_concat : logOf corpus options (ls ++ [l]) =
    logOf corpus options ls ++ (entryFor? corpus options ls l).toList := by
  have hbefore : ∀ i ∈ List.range ls.length,
      (ls ++ [l])[i]?.bind (entryFor? corpus options ((ls ++ [l]).take i)) =
        ls[i]?.bind (entryFor? corpus options (ls.take i)) := by
    intro i hi
    have hlt : i < ls.length := List.mem_range.mp hi
    rw [List.getElem?_append_left hlt, List.take_append_of_le_length (Nat.le_of_lt hlt)]
  rw [logOf, List.length_append, List.length_singleton, List.range_succ, List.filterMap_append,
    List.filterMap_congr hbefore, logOf]
  congr 1
  simp only [List.filterMap_cons, List.filterMap_nil, List.getElem?_concat_length,
    List.take_left', Option.bind_some]
  cases entryFor? corpus options ls l <;> rfl

/-- A visit goes on in the module that the declaration opens, if it opens one. -/
theorem Generation.destination_visit {mode : UnionMode} {g : Generation} :
    (g.visit corpus mode l).context.destination =
      l.declaration.destination?.getD g.context.destination := by
  cases hdestination : l.declaration.destination? with
  | some key =>
    obtain ⟨banner, hmeaning⟩ := ofDeclaration_of_destination? hdestination
    rw [visit_of_ok hmeaning]
    rfl
  | none =>
    cases hmeaning : Meaning.ofDeclaration corpus mode g.context.handles l.declaration with
    | error fault =>
      rw [visit_of_error hmeaning]
      rfl
    | ok meaning =>
      rw [visit_of_ok hmeaning]
      refine Context.destination_apply ?_
      rintro key banner rfl
      have hsome := (meant_of_ofDeclaration hmeaning).destination?_eq
      rw [hdestination] at hsome
      cases hsome

/-- A run is always in the module that was opened last. -/
theorem destination_generate :
    (generate corpus options ls).context.destination = currentModule options ls := by
  induction ls using List.reverseRecOn with
  | nil => rfl
  | append_singleton ls l ih =>
    rw [generate_concat, Generation.destination_visit, ih, currentModule, currentModule,
      List.filterMap_append]
    cases hdestination : l.declaration.destination? <;> simp [hdestination]

/-- An entry is made of the blocks that the declaration gives, if it gives any. -/
theorem entryFor?_eq_some_iff {before : List Located} {e : Entry} :
    entryFor? corpus options before l = some e ↔
      (generate corpus options before).outcome corpus options.unionMode l = .ok e.blocks ∧
        e.blocks ≠ [] ∧ e.key = currentModule options (before ++ [l]) := by
  unfold entryFor?
  obtain ⟨key, blocks⟩ := e
  cases (generate corpus options before).outcome corpus options.unionMode l with
  | error fault => simp
  | ok written =>
    cases written with
    | nil => exact ⟨nofun, fun ⟨h, hne, _⟩ => absurd (Except.ok.inj h).symm hne⟩
    | cons block rest =>
      simp only [Option.some.injEq, Entry.mk.injEq, Except.ok.injEq]
      constructor
      · rintro ⟨rfl, rfl⟩
        exact ⟨rfl, List.cons_ne_nil block rest, rfl⟩
      · rintro ⟨rfl, _, rfl⟩
        exact ⟨rfl, rfl⟩

/-- A visit writes the entry for the declaration, and nothing where there is none. -/
theorem output_concat : (generate corpus options (ls ++ [l])).output =
    (entryFor? corpus options ls l).toList.foldl Output.write
      (generate corpus options ls).output := by
  have hkey : (generate corpus options (ls ++ [l])).context.destination =
      currentModule options (ls ++ [l]) := destination_generate
  rw [generate_concat] at hkey ⊢
  cases hmeaning : Meaning.ofDeclaration corpus options.unionMode
      (generate corpus options ls).context.handles l.declaration with
  | error fault =>
    rw [entryFor?, Generation.outcome_eq_error_iff.mpr hmeaning, Generation.visit_of_error hmeaning]
    rfl
  | ok meaning =>
    have houtcome := Generation.outcome_eq_ok_iff.mpr ⟨meaning, hmeaning, rfl⟩
    rw [Generation.visit_of_ok hmeaning] at hkey ⊢
    rw [entryFor?, houtcome]
    cases hblocks : ((generate corpus options ls).context.apply meaning).1 with
    | nil => rfl
    | cons block blocks =>
      dsimp only at hkey ⊢
      rw [Option.toList_some, List.foldl_cons, List.foldl_nil, Output.write, ← hkey]

/-- The output of a run is what its log says. -/
theorem output_generate :
    (generate corpus options ls).output = (logOf corpus options ls).foldl Output.write {} := by
  induction ls using List.reverseRecOn with
  | nil => rfl
  | append_singleton ls l ih => rw [logOf_concat, List.foldl_append, ← ih, output_concat]

/-- Every group of a log begins at the margin. -/
theorem isFlush_of_mem_logOf : ∀ e ∈ logOf corpus options ls, e.IsFlush := by
  intro e he
  obtain ⟨i, _, hi⟩ := List.mem_filterMap.mp he
  obtain ⟨l, _, hentry⟩ := Option.bind_eq_some_iff.mp hi
  obtain ⟨hok, hne, _⟩ := entryFor?_eq_some_iff.mp hentry
  obtain ⟨meaning, hmeaning, hblocks⟩ := Generation.outcome_eq_ok_iff.mp hok
  obtain ⟨block, rest, hcons⟩ := List.exists_cons_of_ne_nil hne
  rw [Context.fst_apply, hcons] at hblocks
  have hhead : block ∈ (block :: rest).head? := rfl
  rw [← hblocks] at hhead
  exact ⟨block, rest, hcons, (meant_of_ofDeclaration hmeaning).head?_ne _ block hhead⟩

end Runs

/-- The modules of an output are those of the entries of its log, each where its first entry
stands. The text of a module consists of the groups that the log has for it, in their order and
with an empty line between any two of them; no group begins with a space. -/
theorem generate_output_eq_log (corpus : Corpus) (options : GenerationOptions)
    (ls : List Located) :
    (generate corpus options ls).output.keys =
      ((logOf corpus options ls).map (·.key)).eraseDups ∧
    (∀ key, (generate corpus options ls).output.text? key =
      groupsText? (groupsOf key (logOf corpus options ls))) ∧
    ∀ e ∈ logOf corpus options ls, ∃ block rest, e.blocks = block :: rest ∧
      block.head? ≠ some ' ' := by
  rw [output_generate]
  exact ⟨Output.keys_foldl_write isFlush_of_mem_logOf,
    Output.text?_foldl_write isFlush_of_mem_logOf, isFlush_of_mem_logOf⟩

/-- Two modules, the first of which is opened again. -/
def reopeningHeader : List Located :=
  [{ declaration := .enumeration (some "lib_System") none },
    { declaration := .enumeration (some "lib_Graphics") none },
    { declaration := .handle "sfSprite" },
    { declaration := .enumeration (some "lib_System") none }]

/-- The module that is opened again keeps its place and its text, and goes on behind that. -/
theorem generate_output_eq_log_reopeningHeader :
    (generate {} {} reopeningHeader).output.keys =
      [Text.ofString "system", Text.ofString "graphics"] ∧
    (generate {} {} reopeningHeader).output.text? "system" =
      some (Text.ofString "\n#--- lib/System ---#\n\n\n#--- lib/System ---#\n") ∧
    ∃ block rest, [Text.ofString "type Sprite* = ptr object"] = block :: rest ∧
      block.head? ≠ some ' ' := by
  obtain ⟨hkeys, htext, hflush⟩ := generate_output_eq_log {} {} reopeningHeader
  refine ⟨hkeys.trans (by with_unfolding_all decide), (htext _).trans
    (by with_unfolding_all decide), ?_⟩
  exact hflush ⟨"graphics", [Text.ofString "type Sprite* = ptr object"]⟩
    (by with_unfolding_all decide)

end Bindery
