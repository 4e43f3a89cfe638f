import Bindery.Proofs.Log
import Bindery.Proofs.PickedLine

/-!
# Foreign names

Every function of the library is bound exactly once: its name stands on one line of the module that
it belongs to, as it is, and nothing else writes such a line. So the foreign names in a module are
those of the functions for it, in their order.
-/

namespace Bindery

open Text (pick)
open ProcedureHead (importLead importEnd importLine)

/-- The foreign name that a line gives, if it gives one. -/
def importedName? (line : Text) : Option Text :=
  (Text.after? importLead line).bind (Text.before? importEnd)

/-- The foreign names that the lines of a text give, in order. -/
def importedNames (t : Text) : List Text := pick importedName? t

example : importLine "sfClock_create" = "  cdecl, importc: \"sfClock_create\".\x7d" := by
  with_unfolding_all decide

/-- The name of a function of the library. -/
def Declaration.libraryFunction? : Declaration → Option Text
  | function s =>
    if Text.startsWith libraryLead s.name || s.name == Text.ofString "getLineSpacing" then
      some s.name
    else none
  | _ => none

/-- The names of the functions of the library that belong to a module, where some declarations
begin in a given one. -/
def functionsOf (key destination : Text) : List Located → List Text
  | [] => []
  | l :: ls =>
    let destination := l.declaration.destination?.getD destination
    (if destination = key then l.declaration.libraryFunction?.toList else []) ++
      functionsOf key destination ls

/-! ## Lines -/

section Lines

variable {t : Text}

theorem importedName?_importLine (symbol : Text) : importedName? (importLine symbol) = some symbol := by
  rw [importedName?, importLine, List.append_assoc, Text.after?_append, Option.bind_some,
    Text.before?_eq_some_iff]

/-- A line without quotation marks gives no foreign name. -/
theorem importedName?_eq_none_of_quote (h : '"' ∉ t) : importedName? t = none := by
  unfold importedName?
  cases hafter : Text.after? importLead t with
  | none => rfl
  | some rest =>
    have hquote : '"' ∈ importLead := by with_unfolding_all decide
    rw [Text.after?_eq_some_iff.mp hafter] at h
    exact absurd (List.mem_append_left rest hquote) h

/-- A line that begins at the margin gives no foreign name. -/
theorem importedName?_eq_none_of_isFlush (h : t.isFlush = true) : importedName? t = none := by
  have hhead : importLead.head? = some ' ' := by with_unfolding_all decide
  unfold importedName?
  cases hafter : Text.after? importLead t with
  | none => rfl
  | some rest =>
    refine absurd ?_ (Text.head?_ne_of_isFlush h)
    rw [Text.after?_eq_some_iff.mp hafter, List.head?_append, hhead]
    rfl

theorem skipsComments_importedName? : SkipsComments importedName? := by
  have hlead : ∃ rest, importLead = ' ' :: ' ' :: 'c' :: rest := by
    rw [importLead, Text.ofString_eq]
    exact ⟨_, rfl⟩
  have hmark : commentLead = [' ', ' ', '#', '#', ' '] := by with_unfolding_all decide
  intro t
  obtain ⟨rest, hrest⟩ := hlead
  rw [importedName?, hrest, hmark]
  rfl

/-- A text without quotation marks gives no foreign names. -/
theorem pick_importedName?_eq_nil (h : '"' ∉ t) : pick importedName? t = [] := by
  rw [pick, List.filterMap_eq_nil_iff]
  intro line hline
  exact importedName?_eq_none_of_quote fun hmem => h (Text.subset_of_mem_splitOn hline hmem)

end Lines

/-! ## Declarations -/

section Declarations

variable {corpus : Corpus} {mode : UnionMode} {handles : Handles} {d : Declaration} {b : Binding}

private theorem isRareSign_quote : IsRareSign '"' := by decide

/-- A function of the library is one whose name can do without the library's beginning. -/
theorem libraryFunction?_eq (s : Signature) :
    (Declaration.function s).libraryFunction? = (bareName? s.name).map fun _ => s.name := by
  have hstarts : Text.startsWith libraryLead s.name =
      (Text.after? libraryLead s.name).isSome := rfl
  by_cases hname : s.name = Text.ofString "getLineSpacing"
  · simp [Declaration.libraryFunction?, bareName?, unmarkedNames, hname]
  · have hbeq : (s.name == Text.ofString "getLineSpacing") = false := beq_eq_false_iff_ne.mpr hname
    simp only [Declaration.libraryFunction?, bareName?, unmarkedNames, List.lookup_cons, hbeq,
      List.lookup_nil, hstarts, Bool.or_false]
    cases Text.after? libraryLead s.name <;> rfl

/-- A function that becomes a procedure is one of the library. -/
theorem libraryFunction?_of_procedureOf {s : Signature} {p : ProcedureHead × List BoundParam}
    (h : procedureOf handles s = .ok p) :
    (Declaration.function s).libraryFunction? = some s.name := by
  rw [libraryFunction?_eq]
  rw [procedureOf_eq, methodName_eq, bareName] at h
  cases hbare : bareName? s.name with
  | none =>
    rw [hbare] at h
    cases h
  | some bare => rfl

/-- The forms of a procedure give the foreign name once. -/
theorem pick_forms {s : Signature} (hquote : ∀ t ∈ s.texts, '"' ∉ t) (hfeed : ∀ t ∈ s.texts, '\n' ∉ t)
    {p : ProcedureHead × List BoundParam} (hp : procedureOf handles s = .ok p) :
    (p.1.forms p.2).flatMap (pick importedName?) = [s.name] := by
  obtain ⟨hsymbol, hlacks⟩ := lacksSign_of_procedureOf isRareSign_quote hquote hp
  obtain ⟨adapters, hforms, hadapters⟩ := p.1.forms_eq_cons p.2
  obtain ⟨first, hlines, _, hfirst⟩ := p.1.form_nil_eq p.2
  have hforeign : pick importedName? (p.1.form p.2 []) = [s.name] := by
    have hline : '\n' ∉ importLine s.name :=
      ProcedureHead.lineEnd_not_mem_importLine (Or.inr rfl) (hfeed _ List.mem_cons_self)
    rw [hlines, hsymbol, Text.pick_unlines (List.cons_ne_nil _ _), List.flatMap_cons,
      List.flatMap_singleton, pick_importedName?_eq_nil (hfirst _ isRareSign_quote hlacks),
      Text.pick_of_lineFeed_not_mem hline, importedName?_importLine]
    rfl
  have hrest : adapters.flatMap (pick importedName?) = [] := by
    rw [List.flatMap_eq_nil_iff]
    intro adapter hadapter
    obtain ⟨places, hne, rfl⟩ := hadapters adapter hadapter
    obtain ⟨first, second, third, hlines, _, _, _, hlack⟩ := p.1.form_adapter_eq p.2 hne
    obtain ⟨hfirst, hsecond, hthird⟩ := hlack _ isRareSign_quote hlacks
    rw [hlines, Text.pick_unlines (List.cons_ne_nil _ _)]
    simp only [List.flatMap_cons, List.flatMap_nil, pick_importedName?_eq_nil hfirst,
      pick_importedName?_eq_nil hsecond, pick_importedName?_eq_nil hthird, List.append_nil]
  rw [hforms, List.flatMap_cons, hforeign, hrest, List.append_nil]

/-- The blocks of a binding give the foreign name of the function that is bound, and no other
ones. -/
theorem pick_blocks_of_boundAs (h : BoundAs handles d b) (hquote : ∀ t ∈ d.texts, '"' ∉ t)
    (hfeed : ∀ t ∈ d.texts, '\n' ∉ t) :
    (b.blocks none).flatMap (pick importedName?) = d.libraryFunction?.toList := by
  have hother : (∀ s, d ≠ .function s) → d.libraryFunction? = none := by
    intro hd
    cases d with
    | function s => exact absurd rfl (hd s)
    | _ => rfl
  cases h with
  | @procedure s p hd hp =>
    subst hd
    rw [libraryFunction?_of_procedureOf hp, Binding.blocks, List.flatMap_singleton,
      Text.pick_unlines ProcedureHead.forms_ne_nil, pick_forms hquote hfeed hp]
    rfl
  | @enumeration name bare items hd hname =>
    subst hd
    have hhead := not_mem_head isRareSign_quote hname (hquote _ List.mem_cons_self)
    have hmembers : '"' ∉ Enumerator.render items := not_mem_render isRareSign_quote (by decide) fun e he t ht =>
      hquote t (List.mem_append_right _ (List.mem_flatMap.mpr ⟨e, he, ht⟩))
    simp only [Binding.blocks, Option.getD_none, List.append_nil, List.flatMap_cons,
      List.flatMap_nil]
    rw [pick_importedName?_eq_nil hhead, pick_importedName?_eq_nil hmembers]
    rfl
  | plain hd hblocks =>
    rw [hother hd]
    exact List.flatMap_eq_nil_iff.mpr fun block hblock =>
      pick_importedName?_eq_nil (hblocks _ isRareSign_quote hquote block hblock)
  | object hd hblocks =>
    rw [hother hd]
    exact List.flatMap_eq_nil_iff.mpr fun block hblock =>
      pick_importedName?_eq_nil (hblocks _ isRareSign_quote hquote block hblock)

/-- The head of an enumeration gives no foreign name, whatever the comment behind it. -/
theorem picksHead_importedName? (h : BoundAs handles d b) : b.PicksHead importedName? := by
  cases h with
  | enumeration hd hname =>
    have hflush : ∀ t, Text.isFlush (Text.ofString "type " ++ t) = true :=
      Text.isFlush_append (by with_unfolding_all decide)
    intro t
    simp only [List.append_assoc]
    rw [importedName?_eq_none_of_isFlush (hflush _), importedName?_eq_none_of_isFlush (hflush _)]
  | procedure => trivial
  | plain => trivial
  | object => trivial

theorem quote_not_mem_banner {name : Text} (h : '"' ∉ name) : '"' ∉ Marker.banner name := by
  have hmarks : '"' ∉ Text.ofString "\n#--- " ++ Text.ofString " ---#" := by
    with_unfolding_all decide
  simp only [List.mem_append, not_or] at hmarks
  have hname : '"' ∉ name.map (fun c => if c = '_' then '/' else c) := by
    intro hmem
    obtain ⟨c, hc, heq⟩ := List.mem_map.mp hmem
    split at heq
    · cases heq
    · exact h (heq ▸ hc)
  simp [Marker.banner, hmarks, hname]

/-- The banner of a module says what its marker is called. -/
theorem banner_of_ofDeclaration {key banner : Text}
    (h : Meaning.ofDeclaration corpus mode handles d = .ok (.destination key banner)) :
    ∃ name, d = .enumeration (some name) none ∧ banner = Marker.banner name := by
  have hdestination := (meant_of_ofDeclaration h).destination?_eq
  unfold Declaration.destination? at hdestination
  split at hdestination
  · next name =>
    refine ⟨name, rfl, ?_⟩
    obtain ⟨marker, hmarker, h⟩ := exists_of_bind_eq_ok h
    cases marker with
    | block number =>
      obtain ⟨block, _, h⟩ := exists_of_bind_eq_ok h
      cases h
    | destination key' banner' =>
      cases h
      unfold Marker.ofName at hmarker
      split at hmarker
      · cases hmarker
      · split at hmarker
        · cases hmarker
          rfl
        · cases hmarker
  · cases hdestination

/-- The blocks of a declaration give the foreign name of the function that it is, if it is one of
the library, and no other ones. -/
theorem pick_blocks_eq_libraryFunction? {meaning : Meaning}
    (h : Meaning.ofDeclaration corpus mode handles d = .ok meaning)
    (hquote : ∀ t ∈ d.texts, '"' ∉ t) (hfeed : ∀ t ∈ d.texts, '\n' ∉ t) :
    (meaning.blocks none).flatMap (pick importedName?) = d.libraryFunction?.toList := by
  cases meaning with
  | binding b => exact pick_blocks_of_boundAs (boundAs_of_ofDeclaration h (Or.inl rfl)) hquote hfeed
  | handle name b =>
    exact pick_blocks_of_boundAs (boundAs_of_ofDeclaration h (Or.inr ⟨name, rfl⟩)) hquote hfeed
  | documentation t =>
    obtain ⟨name, _, _, rfl, _⟩ := (meant_of_ofDeclaration h).brings
    rfl
  | destination key banner =>
    obtain ⟨name, rfl, rfl⟩ := banner_of_ofDeclaration h
    rw [Meaning.blocks, List.flatMap_singleton,
      pick_importedName?_eq_nil (quote_not_mem_banner (hquote _ List.mem_cons_self))]
    rfl

/-- A declaration without a meaning is no function of the library. -/
theorem libraryFunction?_of_error {fault : BindingFault}
    (h : Meaning.ofDeclaration corpus mode handles d = .error fault) :
    d.libraryFunction? = none := by
  cases d with
  | function s =>
    cases ofDeclaration_eq_error_iff.mp h with
    | function hforeign =>
      rw [libraryFunction?_eq, bareName?_eq_none_iff.mpr hforeign]
      rfl
  | _ => rfl

end Declarations

/-! ## Runs -/

namespace Output

/-- The foreign names in a module. -/
def imports (o : Output) (key : Text) : List Text := importedNames ((o.text? key).getD [])

/-- No module is written under two names. -/
theorem nodup_keys_foldl_write {entries : List Entry} (h : ∀ e ∈ entries, e.IsFlush) :
    (entries.foldl write {}).keys.Nodup := by
  induction entries using List.reverseRecOn with
  | nil => exact List.nodup_nil
  | append_singleton entries e ih =>
    have hentries := ih fun e' he' => h e' (List.mem_append_left _ he')
    rw [List.foldl_append, List.foldl_cons, List.foldl_nil,
      keys_write (h e (List.mem_append_right _ List.mem_cons_self))]
    split
    · exact hentries
    · next hnew =>
      refine List.nodup_append.mpr ⟨hentries, List.nodup_singleton _, ?_⟩
      rintro key hkey _ hlast rfl
      exact hnew (List.mem_singleton.mp hlast ▸ hkey)

theorem imports_emit {o : Output} {key key' : Text} {blocks : List Text}
    (h : ∀ block ∈ blocks.head?, block.head? ≠ some ' ') :
    (o.emit key blocks).imports key' =
      o.imports key' ++ if key = key' then blocks.flatMap (pick importedName?) else [] := by
  have hnil : importedName? [] = none := importedName?_eq_none_of_quote List.not_mem_nil
  cases blocks with
  | nil => simp
  | cons block rest =>
    have hflush : (Entry.mk key (block :: rest)).IsFlush := ⟨block, rest, rfl, h block rfl⟩
    change (o.write ⟨key, block :: rest⟩).imports key' = _
    by_cases hkey : key = key'
    · subst hkey
      have hgroup : importedNames (groupText (block :: rest)) =
          (block :: rest).flatMap (pick importedName?) := by
        rw [importedNames, pick_groupText, hnil]
        exact List.append_nil _
      rw [imports, text?_write hflush, if_pos rfl, Option.getD_some, imports]
      cases o.text? key with
      | none =>
        rw [hgroup, Option.getD_none, importedNames, Text.pick_nil, hnil]
        rfl
      | some t =>
        dsimp only
        rw [importedNames, Text.pick_append_lineFeed, Option.getD_some]
        exact congrArg (importedNames t ++ ·) hgroup
    · rw [imports, text?_write_of_ne (Ne.symm hkey), if_neg hkey, List.append_nil, imports]

end Output

section Runs

variable {corpus : Corpus} {mode : UnionMode} {g : Generation} {l : Located}

/-- A visit adds the name of the function that is visited, if it is one of the library, to the
module that is current then. -/
theorem imports_visit (hquote : ∀ t ∈ l.declaration.texts, ∀ c ∈ ['"', '\r', '\n'], c ∉ t)
    (key : Text) :
    (g.visit corpus mode l).output.imports key = g.output.imports key ++
      if l.declaration.destination?.getD g.context.destination = key then
        l.declaration.libraryFunction?.toList
      else [] := by
  have hdestination : (g.visit corpus mode l).context.destination =
      l.declaration.destination?.getD g.context.destination :=
    Generation.destination_visit
  cases hmeaning : Meaning.ofDeclaration corpus mode g.context.handles l.declaration with
  | error fault =>
    rw [Generation.visit_of_error hmeaning, libraryFunction?_of_error hmeaning]
    simp
  | ok meaning =>
    rw [Generation.visit_of_ok hmeaning] at hdestination ⊢
    dsimp only at hdestination ⊢
    rw [Context.fst_apply, Output.imports_emit ((meant_of_ofDeclaration hmeaning).head?_ne _),
      pick_blocks_of_ofDeclaration skipsComments_importedName? hmeaning
        (fun t ht => hquote t ht _ (by simp)) (fun t ht => hquote t ht _ (by simp))
        fun b hb => picksHead_importedName? hb,
      pick_blocks_eq_libraryFunction? hmeaning (fun t ht => hquote t ht _ (by simp))
        (fun t ht => hquote t ht _ (by simp)), hdestination]

/-- A run adds the names of the functions of the library to the modules that they belong to. -/
theorem imports_run {ls : List Located} (hls : Avoids ['"', '\r', '\n'] ls) (key : Text) :
    (g.run corpus mode ls).output.imports key =
      g.output.imports key ++ functionsOf key g.context.destination ls := by
  induction ls generalizing g with
  | nil => exact (List.append_nil _).symm
  | cons l ls ih =>
    have hrest := ih (g := g.visit corpus mode l) fun l' hl' => hls l' (List.mem_cons_of_mem l hl')
    rw [Generation.destination_visit, imports_visit (hls l List.mem_cons_self), List.append_assoc]
      at hrest
    exact hrest

end Runs

/-- Every function of the library is bound exactly once. For a header without quotation marks and
line ends in its names, types and values, the foreign names that the lines of a module give are the
names of the functions of the library among the declarations for that module, in their order, as
they are. -/
theorem generate_imports (corpus : Corpus) (options : GenerationOptions) {ls : List Located}
    (hls : Avoids ['"', '\r', '\n'] ls) :
    (generate corpus options ls).output.keys.Nodup ∧
    ∀ key, importedNames (((generate corpus options ls).output.text? key).getD []) =
      functionsOf key options.defaultModule ls := by
  constructor
  · rw [output_generate]
    exact Output.nodup_keys_foldl_write isFlush_of_mem_logOf
  · intro key
    have hrun : ((Generation.start options).run corpus options.unionMode ls).output.imports key =
        (Generation.start options).output.imports key ++
          functionsOf key (Generation.start options).context.destination ls :=
      imports_run hls key
    have hempty : (Generation.start options).output.imports key = [] := by
      have hnil : importedName? [] = none := importedName?_eq_none_of_quote List.not_mem_nil
      change importedNames [] = []
      rw [importedNames, Text.pick_nil, hnil]
      rfl
    rw [hempty, List.nil_append] at hrun
    exact hrun

/-- A documented function with an adapter, a function of another library, and one for another
module. -/
def twoModuleHeader : List Located :=
  [{ declaration := .enumeration (some "doc1") none },
    { declaration := .function ⟨"void", "sfShape_setMode",
      [⟨"sfShape*", some "shape"⟩, ⟨"const sfMode*", some "mode"⟩]⟩ },
    { declaration := .function ⟨"int", "printf", []⟩ },
    { declaration := .enumeration (some "lib_Audio") none },
    { declaration := .function ⟨"void", "sfSound_play", [⟨"sfSound*", none⟩]⟩ }]

/-- A comment that quotes the line of a foreign name gives none. -/
theorem generate_imports_twoModuleHeader :
    Avoids ['"', '\r', '\n'] twoModuleHeader ∧
    importedNames (((generate ⟨["\n  cdecl, importc: \"sfFree\".\x7d"]⟩ {} twoModuleHeader).output.text?
      "main").getD []) = [Text.ofString "sfShape_setMode"] ∧
    importedNames (((generate ⟨["\n  cdecl, importc: \"sfFree\".\x7d"]⟩ {} twoModuleHeader).output.text?
      "audio").getD []) = [Text.ofString "sfSound_play"] := by
  have havoids : Avoids ['"', '\r', '\n'] twoModuleHeader := by with_unfolding_all decide
  obtain ⟨_, himports⟩ := generate_imports ⟨["\n  cdecl, importc: \"sfFree\".\x7d"]⟩ {} havoids
  exact ⟨havoids, (himports "main").trans (by with_unfolding_all decide),
    (himports "audio").trans (by with_unfolding_all decide)⟩

end Bindery
