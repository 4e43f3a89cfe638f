import Bindery.Proofs.DeclaredName
import Bindery.Proofs.ForeignName
import Bindery.Proofs.TargetDeclaration

/-!
# Lines that declare types

A declaration of a type gives one line that declares it in the target language, and nothing else
gives such a line. No declaration looks at what was declared before it: a handle that is declared
again, or defined as well, has a line for each of its declarations.
-/

namespace Bindery

open Text (pick)

/-- The name of the type that a line declares, if it declares one. -/
def lineType? (line : Text) : Option Text :=
  (Text.after? "type " line).map (List.takeWhile (· != '*'))

/-- The names of the types that the lines of all modules declare. -/
def Output.types (o : Output) : List Text := o.modules.flatMap fun m => pick lineType? m.2

instance (r : Record) : Decidable r.HasUnnamedField :=
  inferInstanceAs (Decidable (∃ p ∈ r.fields, p.name = none ∧ p.type ≠ tagType))

/-- The name of the object that a record becomes, if it becomes one. -/
def Record.objectName? (r : Record) : Option Text :=
  if r.name = sharedRecord ∨ r.HasUnnamedField then none else some (typeName [] [] r.name)

namespace Declaration

/-- Whether a type is declared without being defined. -/
def isHandle : Declaration → Bool
  | handle _ => true
  | _ => false

/-- The C name of the type that is defined, if one is. -/
def definedType? : Declaration → Option Text
  | enumeration (some name) (some _) | «alias» name _ => some name
  | callback s => some s.name
  | struct r | union r => some r.name
  | _ => none

/-- The C name of the type that is declared, if one is. -/
def declaredType? : Declaration → Option Text
  | handle name => some name
  | d => d.definedType?

/-- The name of the type that is declared in the target language, if one is. -/
def writtenType? (mode : UnionMode) : Declaration → Option Text
  | handle name | enumeration (some name) (some _) => bareName? name
  | callback s => bareName? s.name
  | «alias» name target => (bareName? target).bind fun _ => bareName? name
  | struct r => r.objectName?
  | union r => if mode = .object then r.objectName? else none
  | _ => none

end Declaration

/-! ## Names of types -/

section Names

variable {name : Text}

theorem isSign_star : IsSign '*' := by decide

theorem bareName_eq_ok_iff {bare : Text} : bareName name = .ok bare ↔ bareName? name = some bare := by
  unfold bareName
  cases bareName? name <;> simp

/-- Without stars nothing is a pointer. -/
theorem pointers_ofText (h : '*' ∉ name) : (CType.ofText name).pointers = 0 := by
  have hspelling : ∀ {spelling : Text}, '*' ∉ spelling → List.count '*' (List.takeWhile isPointerPart
      (widthName (Text.trim (Text.rewrite constRule spelling))).reverse) = 0 := by
    intro spelling hspelling
    refine List.count_eq_zero_of_not_mem fun hmem => hspelling ?_
    have hwidth := List.mem_reverse.mp ((List.takeWhile_prefix isPointerPart).subset hmem)
    exact mem_of_mem_rewrite_constRule
      ((Text.trim_infix _).subset (mem_of_mem_widthName isSign_star hwidth))
  unfold CType.ofText
  cases hsize : takeSize? name with
  | some cut => exact hspelling fun hmem => h ((subset_of_takeSize? hsize).1 hmem)
  | none => exact hspelling h

/-- What is no pointer has its bare name, whatever handles there are. -/
theorem ofCType_of_pointers (handles : Handles) (hint : Text) {t : CType} (h : t.pointers = 0) :
    TargetType.ofCType handles hint t = ⟨0, false, (bareName? t.base).getD t.base, t.size⟩ := by
  simp [TargetType.ofCType, TargetType.ofVoid, h]

/-- A name without stars is written in the same way whatever handles there are. -/
theorem typeName_of_star_not_mem (handles : Handles) (h : '*' ∉ name) :
    typeName handles [] name = typeName [] [] name := by
  rw [typeName, typeName, ofCType_of_pointers handles [] (pointers_ofText h),
    ofCType_of_pointers [] [] (pointers_ofText h)]

theorem star_not_mem_bareName? {bare : Text} (h : '*' ∉ name) (hbare : bareName? name = some bare) :
    '*' ∉ bare :=
  fun hmem => h (mem_of_mem_bareName? isSign_star hbare hmem)

theorem star_not_mem_typeName (h : '*' ∉ name) : '*' ∉ typeName [] [] name := by
  have hbase : '*' ∉ (CType.ofText name).base := fun hmem =>
    h (mem_of_mem_base_ofText isSign_star hmem)
  have hbare : '*' ∉ (bareName? (CType.ofText name).base).getD (CType.ofText name).base := by
    cases hname : bareName? (CType.ofText name).base with
    | none => exact hbase
    | some bare => exact star_not_mem_bareName? hbase hname
  have helement : '*' ∉ (TargetType.mk 0 false
      ((bareName? (CType.ofText name).base).getD (CType.ofText name).base)
      (CType.ofText name).size).renderElement := by
    simp only [TargetType.renderElement, List.replicate_zero, List.flatten_nil, Bool.false_eq_true,
      if_false, List.nil_append]
    split
    · with_unfolding_all decide
    · exact hbare
  rw [typeName, ofCType_of_pointers [] [] (pointers_ofText h), TargetType.render]
  cases hsize : (CType.ofText name).size with
  | none =>
    rw [hsize] at helement
    exact helement
  | some size =>
    rw [hsize] at helement
    have hmarks : '*' ∉ Text.ofString "array[" ++ Text.ofString ", " ++ [']'] := by
      with_unfolding_all decide
    have hinner : '*' ∉ size := fun hmem => h (subset_of_size_ofText hsize hmem)
    simp only [List.mem_append, not_or] at hmarks ⊢
    exact ⟨⟨⟨⟨hmarks.1.1, hinner⟩, hmarks.1.2⟩, helement⟩, hmarks.2⟩

end Names

/-! ## Lines -/

section Lines

variable {t name : Text}

/-- A line that does not begin with a `t` declares no type. -/
theorem lineType?_eq_none (h : t.head? ≠ some 't') : lineType? t = none := by
  have hhead : (Text.ofString "type ").head? = some 't' := by with_unfolding_all decide
  unfold lineType?
  cases hafter : Text.after? (Text.ofString "type ") t with
  | none => rfl
  | some rest =>
    refine absurd ?_ h
    rw [Text.after?_eq_some_iff.mp hafter, List.head?_append, hhead]
    rfl

@[simp] theorem lineType?_nil : lineType? [] = none := lineType?_eq_none nofun

theorem lineType?_eq_none_of_prefix {lead : Text} (h : lead <+: t) (hne : lead ≠ [])
    (hlead : lead.head? ≠ some 't') : lineType? t = none := by
  obtain ⟨rest, rfl⟩ := h
  obtain ⟨c, lead, rfl⟩ := List.exists_cons_of_ne_nil hne
  exact lineType?_eq_none hlead

/-- A line that declares a type gives its name. -/
theorem lineType?_type (hstar : '*' ∉ name) {mark : Text} (hmark : mark.head? = some '*')
    (tail : Text) : lineType? (Text.ofString "type " ++ (name ++ (mark ++ tail))) = some name :=
  declaredName?_type_append hstar hmark tail []

theorem skipsComments_lineType? : SkipsComments lineType? := by
  intro t
  exact lineType?_eq_none_of_prefix (List.prefix_append _ t) (by with_unfolding_all decide)
    (by with_unfolding_all decide)

theorem pick_lineType?_eq_nil (hfeed : '\n' ∉ t) (h : lineType? t = none) :
    pick lineType? t = [] := by
  rw [Text.pick_of_lineFeed_not_mem hfeed, h]
  rfl

end Lines

/-! ## Declarations -/

section Declarations

variable {corpus : Corpus} {mode : UnionMode} {handles : Handles} {d : Declaration} {b : Binding}

/-- From blocks of one line each, a rule picks what it picks from the lines. -/
theorem flatMap_pick {f : Text → Option Text} {blocks : List Text}
    (h : ∀ block ∈ blocks, '\n' ∉ block) : blocks.flatMap (pick f) = blocks.filterMap f := by
  induction blocks with
  | nil => rfl
  | cons block blocks ih =>
    rw [List.flatMap_cons, Text.pick_of_lineFeed_not_mem (h block List.mem_cons_self),
      ih fun block' hmem => h block' (List.mem_cons_of_mem block hmem)]
    cases hf : f block <;> simp [hf]

/-- The blocks of a binding that is no procedure and no enumeration are lines. -/
theorem flatMap_pick_of_boundAs {f : Text → Option Text} (h : BoundAs handles d b)
    (hprocedure : ∀ forms, b ≠ .procedure forms) (henumeration : ∀ head, ∀ members,
      b ≠ .enumeration head members) (hfeed : ∀ t ∈ d.texts, '\n' ∉ t) :
    (b.blocks none).flatMap (pick f) = (b.blocks none).filterMap f := by
  have hrare : IsRareSign '\n' := by decide
  cases h with
  | procedure => exact absurd rfl (hprocedure _)
  | enumeration => exact absurd rfl (henumeration _ _)
  | plain _ hblocks => exact flatMap_pick (hblocks _ hrare hfeed)
  | object _ hblocks => exact flatMap_pick (hblocks _ hrare hfeed)

/-- No form of a procedure declares a type. -/
theorem pick_lineType?_forms {s : Signature} (hfeed : ∀ t ∈ s.texts, '\n' ∉ t)
    {p : ProcedureHead × List BoundParam} (hp : procedureOf handles s = .ok p) :
    (p.1.forms p.2).flatMap (pick lineType?) = [] := by
  have hrare : IsRareSign '\n' := by decide
  have hproc : ∀ {t : Text}, Text.ofString "proc " <+: t → lineType? t = none := fun h =>
    lineType?_eq_none_of_prefix h (by with_unfolding_all decide) (by with_unfolding_all decide)
  have hindent : ∀ {t : Text}, Text.ofString "  " <+: t → lineType? t = none := fun h =>
    lineType?_eq_none_of_prefix h (by with_unfolding_all decide) (by with_unfolding_all decide)
  obtain ⟨hsymbol, hlacks⟩ := lacksSign_of_procedureOf hrare hfeed hp
  obtain ⟨adapters, hforms, hadapters⟩ := p.1.forms_eq_cons p.2
  rw [List.flatMap_eq_nil_iff, hforms]
  intro form hform
  rcases List.mem_cons.mp hform with rfl | hform
  · obtain ⟨first, hlines, hlead, hfirst⟩ := p.1.form_nil_eq p.2
    have hsecond : '\n' ∉ ProcedureHead.importLine p.1.symbol := by
      rw [hsymbol]
      exact ProcedureHead.lineEnd_not_mem_importLine (Or.inr rfl) (hfeed _ List.mem_cons_self)
    have himport : lineType? (ProcedureHead.importLine p.1.symbol) = none := by
      have hlead : Text.ofString "  " <+: ProcedureHead.importLead := by with_unfolding_all decide
      rw [ProcedureHead.importLine, List.append_assoc]
      exact hindent (hlead.trans (List.prefix_append _ _))
    rw [hlines, Text.pick_unlines (List.cons_ne_nil _ _)]
    simp only [List.flatMap_cons, List.flatMap_nil, List.append_nil,
      pick_lineType?_eq_nil (hfirst _ hrare hlacks) (hproc hlead),
      pick_lineType?_eq_nil hsecond himport]
  · obtain ⟨places, hne, rfl⟩ := hadapters form hform
    obtain ⟨first, second, third, hlines, hlead, hlead', hlead'', hlack⟩ :=
      p.1.form_adapter_eq p.2 hne
    obtain ⟨hfirst, hsecond, hthird⟩ := hlack _ hrare hlacks
    rw [hlines, Text.pick_unlines (List.cons_ne_nil _ _)]
    simp only [List.flatMap_cons, List.flatMap_nil, List.append_nil,
      pick_lineType?_eq_nil hfirst (hproc hlead), pick_lineType?_eq_nil hsecond (hindent hlead'),
      pick_lineType?_eq_nil hthird (hindent (hlead''.trans (List.prefix_append _ _)))]

/-- No member of an enumeration declares a type. -/
theorem pick_lineType?_render (items : List Enumerator) :
    pick lineType? (Enumerator.render items) = [] := by
  have hindent : '\n' ∉ Enumerator.lineIndent := by with_unfolding_all decide
  unfold Enumerator.render
  dsimp only
  rcases List.eq_nil_or_concat (Text.wrap Enumerator.lineWidth Enumerator.lineIndent
    (List.intercalate ", " ((Enumerator.shown items).map fun e => assigned e.name e.value)))
    with hnil | ⟨lines, last, hlines⟩
  · rw [hnil]
    exact pick_lineType?_eq_nil List.not_mem_nil lineType?_nil
  · rw [Text.pick_unlines (by simp [hlines]), List.flatMap_eq_nil_iff]
    intro line hline
    refine pick_lineType?_eq_nil (Text.lineFeed_not_mem_of_mem_wrap hindent hline) ?_
    obtain ⟨words, _, rfl⟩ := List.mem_map.mp hline
    exact lineType?_eq_none_of_prefix (List.prefix_append _ _) (by with_unfolding_all decide)
      (by with_unfolding_all decide)

/-- The head of an enumeration declares its type, whatever the comment behind it. -/
theorem picksHead_lineType? (h : BoundAs handles d b) (hstar : ∀ name ∈ d.declaredType?, '*' ∉ name) :
    b.PicksHead lineType? := by
  cases h with
  | enumeration hd hname =>
    subst hd
    have hbare := star_not_mem_bareName? (hstar _ rfl) (bareName_eq_ok_iff.mp hname)
    intro t
    simp only [List.append_assoc]
    rw [lineType?_type hbare (by with_unfolding_all decide),
      ← List.append_nil (Text.ofString "* \x7b.pure, size: sizeof(cint).\x7d = enum"),
      lineType?_type hbare (by with_unfolding_all decide)]
  | procedure => trivial
  | plain => trivial
  | object => trivial

/-- An enumeration declares its type, and its members declare none. -/
theorem pick_enumeration {name bare : Text} {items : List Enumerator}
    (hname : bareName name = .ok bare) (hstar : '*' ∉ name) (hfeed : '\n' ∉ name) :
    ((Binding.enumeration ("type " ++ bare ++ "* \x7b.pure, size: sizeof(cint).\x7d = enum")
      (Enumerator.render items)).blocks none).flatMap (pick lineType?) = (bareName? name).toList := by
  have hhead := not_mem_head (c := '\n') (by decide) hname hfeed
  rw [bareName_eq_ok_iff] at hname
  have hbare := star_not_mem_bareName? hstar hname
  simp only [Binding.blocks, Option.getD_none, List.append_nil, List.flatMap_cons,
    List.flatMap_nil, pick_lineType?_render]
  rw [Text.pick_of_lineFeed_not_mem hhead, List.append_assoc,
    ← List.append_nil (Text.ofString "* \x7b.pure, size: sizeof(cint).\x7d = enum"),
    lineType?_type hbare (by with_unfolding_all decide), hname]

/-- An object declares the type that it is. -/
theorem pick_object {name pragmas : Text} {fields : List TypedName} (hstar : '*' ∉ name)
    (h : BoundAs handles d (TargetDeclaration.object name pragmas fields).binding)
    (hfeed : ∀ t ∈ d.texts, '\n' ∉ t) :
    ((TargetDeclaration.object name pragmas fields).binding.blocks none).flatMap (pick lineType?) =
      [name] := by
  have hfields : (fields.map TypedName.fieldText).filterMap lineType? = [] := by
    rw [List.filterMap_eq_nil_iff]
    intro line hline
    obtain ⟨field, _, rfl⟩ := List.mem_map.mp hline
    simp only [TypedName.fieldText, List.append_assoc]
    exact lineType?_eq_none_of_prefix (List.prefix_append _ _) (by with_unfolding_all decide)
      (by with_unfolding_all decide)
  rw [flatMap_pick_of_boundAs h nofun nofun hfeed]
  simp only [TargetDeclaration.binding, Binding.blocks, Option.toList_none,
    List.append_assoc, List.cons_append, List.nil_append]
  rw [List.filterMap_cons_some (lineType?_type hstar (by with_unfolding_all decide) _), hfields]

/-- A line that begins with a bare name and a star declares the type with that name. -/
theorem pick_bareName {name bare : Text} (mark : Text) (hmark : mark.head? = some '*')
    (hstar : '*' ∉ name) (hbare : bareName? name = some bare) (h : BoundAs handles d b)
    (hprocedure : ∀ forms, b ≠ .procedure forms) (henumeration : ∀ head, ∀ members,
      b ≠ .enumeration head members)
    (hblocks : ∃ tail, b.blocks none = [Text.ofString "type " ++ (bare ++ (mark ++ tail))])
    (hfeed : ∀ t ∈ d.texts, '\n' ∉ t) :
    (b.blocks none).flatMap (pick lineType?) = (bareName? name).toList := by
  obtain ⟨tail, hblocks⟩ := hblocks
  rw [flatMap_pick_of_boundAs h hprocedure henumeration hfeed, hblocks, hbare,
    List.filterMap_cons_some (lineType?_type (star_not_mem_bareName? hstar hbare) hmark tail)]
  rfl

/-- The constants of an enumeration declare no type. -/
theorem pick_constants {items : List Enumerator} (hb : bindConstants items = .ok b)
    (hfeed : ∀ t ∈ (Declaration.enumeration none (some items)).texts, '\n' ∉ t) :
    (b.blocks none).flatMap (pick lineType?) = [] := by
  have hbound : BoundAs [] _ b := boundAs_of_bindConstants hb
  obtain ⟨lines, hlines, hb⟩ := exists_of_bind_eq_ok hb
  cases hb
  rw [flatMap_pick_of_boundAs hbound nofun nofun hfeed, List.filterMap_eq_nil_iff]
  intro line hline
  rcases List.mem_cons.mp hline with rfl | hline
  · with_unfolding_all decide
  · obtain ⟨e, _, hline⟩ := exists_of_mapM_eq_ok hlines line hline
    obtain ⟨bare, _, hline⟩ := exists_of_bind_eq_ok hline
    cases hline
    exact lineType?_eq_none_of_prefix (List.prefix_append _ _) (by with_unfolding_all decide)
      (by with_unfolding_all decide)

/-- A record declares the type that it becomes. -/
theorem pick_objectName? {r : Record} {pragmas : Text} (hb : bindObject handles pragmas r = .ok b)
    (hname : r.name ≠ sharedRecord) (hstar : '*' ∉ r.name) (h : BoundAs handles d b)
    (hfeed : ∀ t ∈ d.texts, '\n' ∉ t) :
    (b.blocks none).flatMap (pick lineType?) = r.objectName?.toList := by
  have hfields : ¬ r.HasUnnamedField := by
    intro hfields
    rw [bindObject_eq_error_iff.mpr ⟨hfields, rfl⟩] at hb
    cases hb
  have htarget := bindObject_eq_target hb
  rw [Record.target, typeName_of_star_not_mem handles hstar] at htarget
  subst htarget
  rw [pick_object (star_not_mem_typeName hstar) h hfeed, Record.objectName?,
    if_neg (not_or.mpr ⟨hname, hfields⟩)]
  rfl

/-- The reference to a union that is defined elsewhere declares no type. -/
theorem pick_included {r : Record} (hb : bindUnion handles .included r = .ok b)
    (hfeed : ∀ t ∈ (Declaration.union r).texts, '\n' ∉ t) :
    (b.blocks none).flatMap (pick lineType?) = [] := by
  have hbound := boundAs_of_bindUnion hb
  unfold bindUnion at hb
  split at hb
  · cases hb
    rfl
  · obtain ⟨bare, _, hb⟩ := exists_of_bind_eq_ok hb
    cases hb
    rw [flatMap_pick_of_boundAs hbound nofun nofun hfeed, List.filterMap_eq_nil_iff]
    intro line hline
    rw [List.mem_singleton.mp hline]
    exact lineType?_eq_none_of_prefix (List.prefix_append _ _) (by with_unfolding_all decide)
      (by with_unfolding_all decide)

/-- The banner of a module declares no type. -/
theorem pick_banner {name : Text} (hfeed : '\n' ∉ name) :
    pick lineType? (Marker.banner name) = [] := by
  have hlead : Text.ofString "\n#--- " = '\n' :: Text.ofString "#--- " := by
    with_unfolding_all decide
  have hmarks : '\n' ∉ Text.ofString "#--- " ++ Text.ofString " ---#" := by
    with_unfolding_all decide
  have hmap : '\n' ∉ name.map (fun c => if c = '_' then '/' else c) := by
    intro hmem
    obtain ⟨c, hc, heq⟩ := List.mem_map.mp hmem
    split at heq
    · cases heq
    · exact hfeed (heq ▸ hc)
  have hline : '\n' ∉ Text.ofString "#--- " ++ (name.map (fun c => if c = '_' then '/' else c) ++
      Text.ofString " ---#") := by
    simp only [List.mem_append, not_or] at hmarks ⊢
    exact ⟨hmarks.1, hmap, hmarks.2⟩
  have hnone := lineType?_eq_none_of_prefix (List.prefix_append (Text.ofString "#--- ")
    (name.map (fun c => if c = '_' then '/' else c) ++ Text.ofString " ---#"))
    (by with_unfolding_all decide) (by with_unfolding_all decide)
  rw [Marker.banner, hlead, List.append_assoc, List.cons_append, ← List.nil_append ('\n' :: _),
    Text.pick_append_lineFeed, pick_lineType?_eq_nil hline hnone,
    pick_lineType?_eq_nil List.not_mem_nil lineType?_nil]
  rfl

/-- The blocks of a declaration declare the type that it declares, if it declares one, and no other
one. -/
theorem pick_blocks_eq_writtenType? {meaning : Meaning}
    (h : Meaning.ofDeclaration corpus mode handles d = .ok meaning)
    (hstar : ∀ name ∈ d.declaredType?, '*' ∉ name) (hfeed : ∀ t ∈ d.texts, '\n' ∉ t) :
    (meaning.blocks none).flatMap (pick lineType?) = (d.writtenType? mode).toList := by
  cases d with
  | function s =>
    obtain ⟨t, ht, rfl⟩ := exists_target h trivial
    obtain ⟨p, hp, rfl⟩ := target?_function_eq_some_iff.mp ht
    rw [Meaning.blocks, TargetDeclaration.binding, Binding.blocks, List.flatMap_singleton,
      Text.pick_unlines ProcedureHead.forms_ne_nil, pick_lineType?_forms hfeed hp]
    rfl
  | callback s =>
    obtain ⟨b, hb, hmeaning⟩ := exists_of_bind_eq_ok h
    cases hmeaning
    have hbound := boundAs_of_bindCallback hb
    obtain ⟨bare, hbare, hb⟩ := exists_of_bind_eq_ok hb
    cases hb
    refine pick_bareName "* = proc(" (by with_unfolding_all decide) (hstar _ rfl)
      (bareName_eq_ok_iff.mp hbare) hbound (by simp) (by simp) ?_ hfeed
    simp only [Binding.blocks, List.append_assoc]
    exact ⟨_, rfl⟩
  | «alias» name target =>
    cases h
    have hbound : BoundAs handles _ _ := boundAs_bindAlias name target
    unfold bindAlias at hbound ⊢
    rw [Declaration.writtenType?]
    split at hbound
    · next bare bareTarget hbare htarget =>
      rw [htarget, Option.bind_some, Meaning.blocks]
      refine pick_bareName "* = " (by with_unfolding_all decide) (hstar _ rfl) hbare
        hbound (by simp) (by simp) ?_ hfeed
      simp only [Binding.blocks, List.append_assoc]
      exact ⟨_, rfl⟩
    · next hnone =>
      rw [Meaning.blocks, Binding.blocks]
      cases htarget : bareName? target with
      | none => rfl
      | some bareTarget =>
        cases hbare : bareName? name with
        | none => rfl
        | some bare => exact absurd htarget (hnone bare bareTarget hbare)
  | enumeration name items =>
    cases items with
    | none =>
      cases name with
      | none => cases h
      | some name =>
        have hmeaning := h
        obtain ⟨marker, _, h⟩ := exists_of_bind_eq_ok h
        cases marker with
        | block number =>
          obtain ⟨block, _, h⟩ := exists_of_bind_eq_ok h
          cases h
          rfl
        | destination key banner =>
          cases h
          obtain ⟨name', hd, rfl⟩ := banner_of_ofDeclaration hmeaning
          cases hd
          rw [Meaning.blocks, List.flatMap_singleton, pick_banner (hfeed _ List.mem_cons_self)]
          rfl
    | some items =>
      cases name with
      | none =>
        obtain ⟨b, hb, hmeaning⟩ := exists_of_bind_eq_ok h
        cases hmeaning
        exact pick_constants hb hfeed
      | some name =>
        obtain ⟨b, hb, hmeaning⟩ := exists_of_bind_eq_ok h
        cases hmeaning
        obtain ⟨bare, hbare, hb⟩ := exists_of_bind_eq_ok hb
        cases hb
        exact pick_enumeration hbare (hstar _ rfl) (hfeed _ List.mem_cons_self)
  | struct r =>
    obtain ⟨b, hb, hmeaning⟩ := exists_of_bind_eq_ok h
    cases hmeaning
    have hbound := boundAs_of_bindStruct hb
    unfold bindStruct at hb
    split at hb
    · next hname =>
      cases hb
      rw [Declaration.writtenType?, Record.objectName?, if_pos (Or.inl hname)]
      rfl
    · next hname => exact pick_objectName? hb hname (hstar _ rfl) hbound hfeed
  | union r =>
    obtain ⟨b, hb, hmeaning⟩ := exists_of_bind_eq_ok h
    cases hmeaning
    cases mode with
    | included => exact pick_included hb hfeed
    | object =>
      have hbound := boundAs_of_bindUnion hb
      unfold bindUnion at hb
      rw [Declaration.writtenType?, if_pos rfl]
      split at hb
      · next hname =>
        cases hb
        rw [Record.objectName?, if_pos (Or.inl hname)]
        rfl
      · next hname => exact pick_objectName? hb hname (hstar _ rfl) hbound hfeed
  | handle name =>
    obtain ⟨bare, hbare, h⟩ := exists_of_bind_eq_ok h
    obtain ⟨b, hb, hmeaning⟩ := exists_of_bind_eq_ok h
    cases hmeaning
    have hbound : BoundAs handles _ b := boundAs_of_bindHandle hb
    rw [bindHandle, hbare] at hb
    cases hb
    refine pick_bareName "* = ptr object" (by with_unfolding_all decide) (hstar _ rfl)
      (bareName_eq_ok_iff.mp hbare) hbound (by simp) (by simp) ⟨[], ?_⟩ hfeed
    simp only [Binding.blocks, List.append_assoc, List.append_nil]
    rfl

/-- A declaration without a meaning declares no type. -/
theorem writtenType?_of_error {fault : BindingFault}
    (h : Meaning.ofDeclaration corpus mode handles d = .error fault) :
    d.writtenType? mode = none := by
  have hforeign : ∀ {name : Text}, IsForeign name → bareName? name = none :=
    fun hname => bareName?_eq_none_iff.mpr hname
  cases ofDeclaration_eq_error_iff.mp h with
  | callback hname => exact hforeign hname
  | handle hname => exact hforeign hname
  | enumeration hname => exact hforeign hname
  | included hmode => rw [hmode]; rfl
  | struct _ hfields => exact if_pos (Or.inr hfields)
  | union hmode _ hfields =>
    rw [hmode]
    exact if_pos (Or.inr hfields)
  | function => rfl
  | constants => rfl
  | block => rfl
  | marker => rfl
  | empty => rfl

end Declarations

/-! ## Runs -/

/-- A group at the margin adds the types that its blocks declare. -/
theorem Output.types_emit {o : Output} {key : Text} {blocks : List Text}
    (h : ∀ block ∈ blocks.head?, block.head? ≠ some ' ') :
    (o.emit key blocks).types.Perm (o.types ++ blocks.flatMap (pick lineType?)) := by
  cases blocks with
  | nil => simp
  | cons block rest =>
    have hflush : (Entry.mk key (block :: rest)).IsFlush := ⟨block, rest, rfl, h block rfl⟩
    have hgroup : pick lineType? (groupText (block :: rest)) =
        (block :: rest).flatMap (pick lineType?) := by
      rw [pick_groupText, lineType?_nil]
      exact List.append_nil _
    change ((addTo key (block :: rest) o.modules).flatMap fun m => pick lineType? m.2).Perm _
    rw [types]
    generalize o.modules = modules
    induction modules with
    | nil =>
      rw [addTo, List.flatMap_singleton, hgroup]
      exact List.Perm.refl _
    | cons m modules ih =>
      obtain ⟨k, t⟩ := m
      rw [addTo]
      split
      · rw [separator_of_isFlush hflush, List.flatMap_cons, List.flatMap_cons, List.append_assoc,
          List.singleton_append, Text.pick_append_lineFeed, hgroup, List.append_assoc,
          List.append_assoc]
        exact List.perm_append_comm.append_left _
      · rw [List.flatMap_cons, List.flatMap_cons, List.append_assoc]
        exact ih.append_left _

section Runs

variable {corpus : Corpus} {mode : UnionMode} {g : Generation}

/-- A visit adds the type that the declaration declares. -/
theorem types_visit {l : Located} (hstar : ∀ name ∈ l.declaration.declaredType?, '*' ∉ name)
    (htexts : ∀ t ∈ l.declaration.texts, ∀ c ∈ ['\r', '\n'], c ∉ t) :
    (g.visit corpus mode l).output.types.Perm
      (g.output.types ++ (l.declaration.writtenType? mode).toList) := by
  have hreturn : ∀ t ∈ l.declaration.texts, '\r' ∉ t := fun t ht => htexts t ht _ (by simp)
  have hfeed : ∀ t ∈ l.declaration.texts, '\n' ∉ t := fun t ht => htexts t ht _ (by simp)
  cases hmeaning : Meaning.ofDeclaration corpus mode g.context.handles l.declaration with
  | error fault =>
    rw [Generation.visit_of_error hmeaning, writtenType?_of_error hmeaning]
    simp
  | ok meaning =>
    rw [Generation.visit_of_ok hmeaning, Context.fst_apply]
    refine (Output.types_emit ((meant_of_ofDeclaration hmeaning).head?_ne _)).trans ?_
    rw [pick_blocks_of_ofDeclaration skipsComments_lineType? hmeaning hreturn hfeed
      fun b hb => picksHead_lineType? hb hstar, pick_blocks_eq_writtenType? hmeaning hstar hfeed]

/-- A run adds the types that the declarations declare. -/
theorem types_run {ls : List Located}
    (hstar : ∀ l ∈ ls, ∀ name ∈ l.declaration.declaredType?, '*' ∉ name)
    (hls : Avoids ['\r', '\n'] ls) : (g.run corpus mode ls).output.types.Perm
      (g.output.types ++ ls.filterMap (·.declaration.writtenType? mode)) := by
  induction ls generalizing g with
  | nil => simp [Generation.run]
  | cons l ls ih =>
    have hvisit : (g.visit corpus mode l).output.types.Perm _ :=
      types_visit (hstar l List.mem_cons_self) (hls l List.mem_cons_self)
    have hrest := ih (g := g.visit corpus mode l)
      (fun l' hl' => hstar l' (List.mem_cons_of_mem l hl'))
      fun l' hl' => hls l' (List.mem_cons_of_mem l hl')
    refine hrest.trans ((hvisit.append_right _).trans ?_)
    cases hwritten : l.declaration.writtenType? mode with
    | none => simp [hwritten]
    | some name => simp [hwritten]

end Runs

/-- Two declarations declare types with one name in the target language. -/
def ShareName (mode : UnionMode) (d e : Declaration) : Prop :=
  d.writtenType? mode ≠ none ∧ d.writtenType? mode = e.writtenType? mode

instance (mode : UnionMode) (d e : Declaration) : Decidable (ShareName mode d e) :=
  inferInstanceAs (Decidable (_ ∧ _))

/-- A handle is declared twice, at least once without being defined. -/
def RepeatsHandle (mode : UnionMode) (d e : Declaration) : Prop :=
  (d.isHandle ∨ e.isHandle) ∧ ShareName mode d e

instance (mode : UnionMode) (d e : Declaration) : Decidable (RepeatsHandle mode d e) :=
  inferInstanceAs (Decidable (_ ∧ _))

/-- A header that defines no type twice, and whose types are told apart by their names in the target
language. -/
structure DefinesOnce (mode : UnionMode) (ls : List Located) : Prop where
  /-- No type is defined twice. -/
  defined : (ls.filterMap (·.declaration.definedType?)).Nodup
  /-- Types with one name in the target language have one name in C. -/
  toldApart : ∀ l ∈ ls, ∀ m ∈ ls, ShareName mode l.declaration m.declaration →
    l.declaration.declaredType? = m.declaration.declaredType?

theorem shareName_iff {mode : UnionMode} {d e : Declaration} : ShareName mode d e ↔
    ∃ name, d.writtenType? mode = some name ∧ e.writtenType? mode = some name := by
  constructor
  · rintro ⟨hne, he⟩
    obtain ⟨name, hname⟩ := Option.ne_none_iff_exists'.mp hne
    exact ⟨name, hname, he ▸ hname⟩
  · rintro ⟨name, hd, he⟩
    exact ⟨Option.ne_none_iff_exists'.mpr ⟨name, hd⟩, hd.trans he.symm⟩

/-- Only handles and what defines a type declare one. -/
theorem Declaration.exists_definedType? {mode : UnionMode} {d : Declaration} {name : Text}
    (h : d.writtenType? mode = some name) (hhandle : d.isHandle = false) :
    ∃ cName, d.definedType? = some cName ∧ d.declaredType? = some cName := by
  cases d with
  | callback s => exact ⟨s.name, rfl, rfl⟩
  | «alias» cName target => exact ⟨cName, rfl, rfl⟩
  | struct r => exact ⟨r.name, rfl, rfl⟩
  | union r => exact ⟨r.name, rfl, rfl⟩
  | function s => cases h
  | handle cName => cases hhandle
  | enumeration cName items =>
    cases cName with
    | none => cases h
    | some cName =>
      cases items with
      | none => cases h
      | some items => exact ⟨cName, rfl, rfl⟩

/-- Where no type is defined twice and types keep different names, only handles can be declared
again. -/
theorem DefinesOnce.nodup_iff {mode : UnionMode} {ls : List Located} (h : DefinesOnce mode ls) :
    (ls.filterMap (·.declaration.writtenType? mode)).Nodup ↔
      ls.Pairwise fun l m => ¬ RepeatsHandle mode l.declaration m.declaration := by
  rw [List.Nodup, List.pairwise_filterMap]
  constructor
  · refine List.Pairwise.imp ?_
    rintro l m hne ⟨_, hshare⟩
    obtain ⟨name, hl, hm⟩ := shareName_iff.mp hshare
    exact hne name hl name hm rfl
  · intro hrepeats
    have hdefined := h.defined
    rw [List.Nodup, List.pairwise_filterMap] at hdefined
    refine (hrepeats.and hdefined).imp_of_mem ?_
    rintro l m hl hm ⟨hrepeat, hne⟩ name hname _ hname' rfl
    have hshare := shareName_iff.mpr ⟨name, hname, hname'⟩
    have hnot := not_and.mp (mt And.symm hrepeat) hshare
    rw [not_or, Bool.not_eq_true, Bool.not_eq_true] at hnot
    obtain ⟨cName, hcName, hdeclared⟩ := Declaration.exists_definedType? hname hnot.1
    obtain ⟨cName', hcName', hdeclared'⟩ := Declaration.exists_definedType? hname' hnot.2
    have hsame := h.toldApart l hl m hm hshare
    rw [hdeclared, hdeclared', Option.some.injEq] at hsame
    exact hne cName hcName cName' hcName' hsame

/-- **Every declaration of a type is written.** For a header whose types have names without stars,
the types that the lines of all modules declare are those that its declarations declare, each as
often as it is declared. So where no type is defined twice and types keep different names, a type has
at most one line exactly if no handle is declared a second time, be it as a handle or with its
definition. -/
theorem generate_types (corpus : Corpus) (options : GenerationOptions) {ls : List Located}
    (hstar : ∀ l ∈ ls, ∀ name ∈ l.declaration.declaredType?, '*' ∉ name)
    (hls : Avoids ['\r', '\n'] ls) :
    (generate corpus options ls).output.types.Perm
      (ls.filterMap (·.declaration.writtenType? options.unionMode)) ∧
    (DefinesOnce options.unionMode ls →
      ((generate corpus options ls).output.types.Nodup ↔
        ls.Pairwise fun l m => ¬ RepeatsHandle options.unionMode l.declaration m.declaration)) := by
  have hperm : (generate corpus options ls).output.types.Perm
      (ls.filterMap (·.declaration.writtenType? options.unionMode)) :=
    types_run (g := Generation.start options) hstar hls
  exact ⟨hperm, fun h => hperm.nodup_iff.trans h.nodup_iff⟩

/-- A handle, definitions of each kind behind a text about types, and a second name. -/
def shapeHeader : List Located :=
  [{ declaration := .handle "sfShape" },
    { declaration := .enumeration (some "doc1") none },
    { declaration := .struct ⟨"sfPoint", [⟨"float", some "x"⟩]⟩ },
    { declaration := .union ⟨"sfEvent", [⟨"sfPoint", some "at"⟩]⟩ },
    { declaration := .callback ⟨"float", "sfEase", [⟨"float", none⟩]⟩ },
    { declaration := .alias "sfPlace" "sfPoint" }]

/-- Each of them has one line; a comment that looks like one has none. -/
theorem generate_types_shapeHeader :
    (∀ l ∈ shapeHeader, ∀ name ∈ l.declaration.declaredType?, '*' ∉ name) ∧
    Avoids ['\r', '\n'] shapeHeader ∧ DefinesOnce .object shapeHeader ∧
    (generate ⟨["\ntype Shape* = ptr object"]⟩ {} shapeHeader).output.types.Nodup := by
  have hstar : ∀ l ∈ shapeHeader, ∀ name ∈ l.declaration.declaredType?, '*' ∉ name := by
    with_unfolding_all decide
  have havoids : Avoids ['\r', '\n'] shapeHeader := by with_unfolding_all decide
  have hdefines : DefinesOnce .object shapeHeader := by
    constructor
    · with_unfolding_all decide
    · with_unfolding_all decide
  obtain ⟨_, hnodup⟩ := generate_types ⟨["\ntype Shape* = ptr object"]⟩ {} hstar havoids
  refine ⟨hstar, havoids, hdefines, (hnodup hdefines).mpr ?_⟩
  with_unfolding_all decide

/-- Two declarations of a handle. -/
def windowHeader : List Located :=
  [{ declaration := .handle "sfWindow" }, { declaration := .handle "sfWindow" }]

/-- Two structures whose names are taken for those of integers and differ in a capital letter. -/
def widthHeader : List Located :=
  [{ declaration := .struct ⟨"sfInt8A", [⟨"int", some "x"⟩]⟩ },
    { declaration := .struct ⟨"sfInt8a", [⟨"int", some "x"⟩]⟩ }]

/-- Types with different names keep them apart without the library's beginning. -/
def KeepsBareNames (ls : List Located) : Prop :=
  ∀ l ∈ ls, ∀ m ∈ ls, ∀ a ∈ l.declaration.declaredType?, ∀ b ∈ m.declaration.declaredType?,
    (bareName? a).getD a = (bareName? b).getD b → a = b

/-- A handle that is declared twice has two lines, and so have two structures with names that are
written in small letters. -/
theorem not_nodup_types_windowHeader :
    ((windowHeader.filterMap (·.declaration.definedType?)).Nodup ∧ KeepsBareNames windowHeader ∧
      ¬ (generate {} {} windowHeader).output.types.Nodup) ∧
    (widthHeader.filterMap (·.declaration.definedType?)).Nodup ∧ KeepsBareNames widthHeader ∧
      ¬ (generate {} {} widthHeader).output.types.Nodup := by
  refine ⟨⟨?_, ?_, ?_⟩, ?_, ?_, ?_⟩
  · with_unfolding_all decide
  · unfold KeepsBareNames
    with_unfolding_all decide
  · with_unfolding_all decide
  · with_unfolding_all decide
  · unfold KeepsBareNames
    with_unfolding_all decide
  · with_unfolding_all decide

end Bindery
