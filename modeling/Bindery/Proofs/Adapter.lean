import Bindery.Proofs.ParameterPassing
import Bindery.Proofs.TargetDeclaration
import Mathlib.Data.List.Sort

/-!
# Forms taken apart

Every form of a procedure is a foreign declaration or an adapter that calls the procedure again.
For parameters that are references, forms for different choices of parameters are different in
writing, so that none is left out, and an adapter passes on a copy of every parameter that is given
by value and every other parameter as it is. No copy has the name of a parameter, since a copy has a
capital in front and a parameter has none.
-/

namespace Bindery

/-- A form of a procedure, taken apart. -/
inductive FormTree where
  /-- A foreign declaration: its first line, and the foreign name. -/
  | foreign (head symbol : Text)
  /-- An adapter: its first line, its copies, each with what it is a copy of, and what is called
  with which arguments. -/
  | adapter (head : Text) (copies : List (Text × Text)) (callee : Text) (arguments : List Text)
  deriving DecidableEq, Repr

namespace FormTree

/-- A copy in writing. -/
def copyText (copy : Text × Text) : Text := "var " ++ copy.1 ++ " = " ++ copy.2

/-- A form in writing. -/
def text : FormTree → Text
  | foreign head symbol => head ++ " \x7b.\n  cdecl, importc: \"" ++ symbol ++ "\".\x7d"
  | adapter head copies callee arguments =>
    head ++ " =\n  (" ++ List.intercalate "; " (copies.map copyText) ++ ")\n  " ++ callee ++
      ['('] ++ List.intercalate ", " arguments ++ [')']

end FormTree

/-- Whether a form says which foreign procedure it stands for. -/
def ImportsForeign (form : Text) : Prop :=
  ∃ head symbol, form = (FormTree.foreign head symbol).text

/-- An adapter does not stand for a foreign procedure. -/
theorem not_importsForeign_adapter (head : Text) (copies : List (Text × Text)) (callee : Text)
    (arguments : List Text) :
    ¬ ImportsForeign (FormTree.adapter head copies callee arguments).text := by
  rintro ⟨head', symbol, h⟩
  have hforeign : (FormTree.foreign head' symbol).text.getLast? = some '\x7d' := by
    have hend : Text.ofString "\".\x7d" = ['"', '.'] ++ ['\x7d'] := by with_unfolding_all decide
    rw [FormTree.text, hend, ← List.append_assoc, List.getLast?_concat]
  rw [← h, FormTree.text, List.getLast?_concat] at hforeign
  cases hforeign

namespace ProcedureHead

/-- The form in which the parameters at some places are given by value, taken apart. -/
def tree (h : ProcedureHead) (params : List BoundParam) (places : List Nat) : FormTree :=
  let head := h.declare (enumerate (writtenParams params places))
  if places = [] then .foreign head h.symbol
  else
    .adapter head
      ((params.zipIdx.filter fun p => places.contains p.2).map fun p =>
        (copyName p.1.name, p.1.name))
      h.callee
      (params.zipIdx.map fun p => if places.contains p.2 then copyName p.1.name else p.1.name)

variable {h : ProcedureHead} {params : List BoundParam} {chosenPlaces : List Nat}

/-! ## Choices of places -/

/-- The places of some parameters are in order. -/
theorem pairwise_lt_of_filter (params : List BoundParam) (f : BoundParam × Nat → Bool) :
    ((params.zipIdx.filter f).map (·.2)).Pairwise (· < ·) := by
  have hall : (params.zipIdx.map (·.2)).Pairwise (· < ·) := by
    rw [List.zipIdx_map_snd]
    exact List.pairwise_lt_range'
  exact hall.sublist (List.filter_sublist.map _)

theorem pairwise_lt_places (params : List BoundParam) : (places params).Pairwise (· < ·) :=
  pairwise_lt_of_filter params _

/-- As many parameters have such a place as may be given by value. -/
theorem length_places (params : List BoundParam) :
    (places params).length = params.countP (·.byValue) := by
  rw [places, List.length_map, ← List.countP_eq_length_filter]
  conv_rhs => rw [← List.zipIdx_map_fst 0 params, List.countP_map]
  rfl

/-- A choice of such places is in order. -/
theorem pairwise_lt_of_sublist (hchosen : chosenPlaces.Sublist (places params)) :
    chosenPlaces.Pairwise (· < ·) :=
  (pairwise_lt_places params).sublist hchosen

/-- A choice of such places is found again by a look at every parameter. -/
theorem eq_of_sublist_places (hchosen : chosenPlaces.Sublist (places params)) :
    chosenPlaces = (params.zipIdx.filter fun p => chosenPlaces.contains p.2).map (·.2) := by
  refine (pairwise_lt_of_sublist hchosen).eq_of_mem_iff (pairwise_lt_of_filter params _) ?_
  intro k
  constructor
  · intro hk
    obtain ⟨⟨p, k⟩, hp, rfl⟩ := List.mem_map.mp (hchosen.subset hk)
    refine List.mem_map.mpr ⟨(p, k), List.mem_filter.mpr ⟨(List.mem_filter.mp hp).1, ?_⟩, rfl⟩
    exact List.contains_iff_mem.mpr hk
  · intro hk
    obtain ⟨p, hp, rfl⟩ := List.mem_map.mp hk
    exact List.contains_iff_mem.mp (List.mem_filter.mp hp).2

/-- What is said of the parameters at chosen places is said of the chosen parameters. -/
theorem filterMap_getElem?_eq {α : Type} (hchosen : chosenPlaces.Sublist (places params))
    (f : BoundParam → α) :
    chosenPlaces.filterMap (fun k => params[k]?.map f) =
      (params.zipIdx.filter fun p => chosenPlaces.contains p.2).map fun p => f p.1 := by
  conv_lhs => rw [eq_of_sublist_places hchosen, List.filterMap_map]
  rw [← List.filterMap_eq_map]
  refine List.filterMap_congr fun p hp => ?_
  have hget := List.mem_zipIdx_iff_getElem?.mp (List.mem_filter.mp hp).1
  rw [Function.comp_apply, Function.comp_apply, hget, Option.map_some]

/-- A form is what it is taken apart into, in writing. -/
theorem form_eq_text (h : ProcedureHead) (hchosen : chosenPlaces.Sublist (places params)) :
    h.form params chosenPlaces = (h.tree params chosenPlaces).text := by
  unfold form tree
  dsimp only
  by_cases hnone : chosenPlaces = []
  · rw [if_pos (List.isEmpty_iff.mpr hnone), if_pos hnone]
    rfl
  · rw [if_neg (mt List.isEmpty_iff.mp hnone), if_neg hnone, filterMap_getElem?_eq hchosen]
    rw [FormTree.text, List.map_map]
    rfl

/-! ## Different choices -/

/-- A parameter is a reference in writing, as far as it may be given by value, and what it refers to
does not begin with a bracket. -/
def IsPlainReference (p : BoundParam) : Prop :=
  p.byValue = true → ∃ type, p.type = referenceMark ++ type ∧ type.head? ≠ some '('

theorem renderParam_true {p : BoundParam} {type : Text} (hvalue : p.byValue = true)
    (htype : p.type = referenceMark ++ type) :
    renderParam p true = p.name ++ ": " ++ type := by
  rw [renderParam, hvalue, Bool.not_true, if_neg Bool.false_ne_true, if_pos rfl, dereference, htype,
    Text.after?_eq_some_iff.mpr rfl, Option.getD_some]

theorem renderParam_false {p : BoundParam} (hvalue : p.byValue = true) :
    renderParam p false = p.name ++ ": " ++ '(' :: (p.type ++ ")\x7blvalue\x7d") := by
  have hopen : Text.ofString "(" = ['('] := by with_unfolding_all decide
  rw [renderParam, hvalue, Bool.not_true, if_neg Bool.false_ne_true, if_neg Bool.false_ne_true,
    hopen]
  rfl

/-- A type that does not begin with a bracket is told from one in brackets by its first character,
if none follows it either. -/
theorem append_ne_of_head?_ne {type t t' : Text} {c : Char} (htype : type.head? ≠ some '(')
    (hc : c ≠ '(') : type ++ c :: t ≠ '(' :: t' := by
  intro he
  cases type with
  | nil => exact hc (List.cons.inj he).1
  | cons d type =>
    rw [List.cons_append] at he
    exact htype (congrArg some (List.cons.inj he).1)

theorem renderParam_true_append_ne {p : BoundParam} {c : Char} {t t' : Text}
    (hp : IsPlainReference p) (hvalue : p.byValue = true) (hc : c ≠ '(') :
    renderParam p true ++ c :: t ≠ renderParam p false ++ t' := by
  obtain ⟨type, htype, hhead⟩ := hp hvalue
  rw [renderParam_true hvalue htype, renderParam_false hvalue, List.append_assoc (_ ++ _) type,
    List.append_assoc (_ ++ _) ('(' :: _), ne_eq, List.append_cancel_left_eq]
  exact append_ne_of_head?_ne hhead hc

/-- From what is written of a parameter, before anything but a bracket, it is seen whether it is
given by value. -/
theorem eq_of_renderParam_append {p : BoundParam} {value value' : Bool} {c : Char}
    {t t' : Text} (hp : IsPlainReference p) (hc : c ≠ '(')
    (h : renderParam p value ++ c :: t = renderParam p value' ++ c :: t') :
    (p.byValue = true → value = value') ∧ t = t' := by
  have hsame : p.byValue = true → value = value' := by
    intro hvalue
    cases value <;> cases value'
    · rfl
    · exact absurd h.symm (renderParam_true_append_ne hp hvalue hc)
    · exact absurd h (renderParam_true_append_ne hp hvalue hc)
    · rfl
  have hwritten : renderParam p value = renderParam p value' := by
    cases hvalue : p.byValue with
    | false => rw [renderParam, renderParam, hvalue]; rfl
    | true => rw [hsame hvalue]
  rw [hwritten] at h
  exact ⟨hsame, (List.cons.inj (List.append_cancel_left h)).2⟩

/-- From what is written of all parameters it is seen which are given by value. -/
theorem eq_of_enumerate_append {ps : List (BoundParam × Nat)} {value value' : Nat → Bool}
    {t t' : Text} (hps : ∀ p ∈ ps, IsPlainReference p.1)
    (h : enumerate (ps.map fun p => renderParam p.1 (value p.2)) ++ ')' :: t =
      enumerate (ps.map fun p => renderParam p.1 (value' p.2)) ++ ')' :: t') :
    ∀ p ∈ ps, p.1.byValue = true → value p.2 = value' p.2 := by
  induction ps with
  | nil => nofun
  | cons p ps ih =>
    have hcomma : Text.ofString ", " = [',', ' '] := by with_unfolding_all decide
    have hp := hps p List.mem_cons_self
    cases ps with
    | nil =>
      simp only [enumerate, List.map_cons, List.map_nil, List.intercalate_singleton] at h
      intro q hq
      rw [List.mem_singleton.mp hq]
      exact (eq_of_renderParam_append hp (by decide) h).1
    | cons q ps =>
      simp only [enumerate, List.map_cons, List.intercalate_cons_cons, List.append_assoc, hcomma,
        List.cons_append, List.nil_append] at h
      obtain ⟨hfirst, hrest⟩ := eq_of_renderParam_append hp (by decide) h
      have hbehind := ih (fun p hp => hps p (List.mem_cons_of_mem _ hp)) (by
        simp only [enumerate, List.map_cons, hcomma]
        exact (List.cons.inj hrest).2)
      intro r hr
      rcases List.mem_cons.mp hr with rfl | hr
      · exact hfirst
      · exact hbehind r hr

/-- A form begins with what all forms begin with, and then come its parameters. -/
theorem exists_form_eq_append (h : ProcedureHead) (params : List BoundParam)
    (chosenPlaces : List Nat) :
    ∃ rest, h.form params chosenPlaces =
      "proc " ++ h.callee ++ (if h.exported then ['*'] else []) ++ ['('] ++
        (enumerate (writtenParams params chosenPlaces) ++ ')' :: rest) := by
  obtain ⟨rest, hrest⟩ := h.declare_prefix_form params chosenPlaces
  rw [declare] at hrest
  rw [← hrest]
  simp only [List.append_assoc, List.cons_append, List.nil_append]
  exact ⟨_, rfl⟩

/-- Forms for different choices are different. -/
theorem eq_of_form_eq {chosenPlaces' : List Nat} (href : ∀ p ∈ params, IsPlainReference p)
    (hchosen : chosenPlaces.Sublist (places params))
    (hchosen' : chosenPlaces'.Sublist (places params))
    (heq : h.form params chosenPlaces = h.form params chosenPlaces') :
    chosenPlaces = chosenPlaces' := by
  obtain ⟨rest, hform⟩ := h.exists_form_eq_append params chosenPlaces
  obtain ⟨rest', hform'⟩ := h.exists_form_eq_append params chosenPlaces'
  rw [hform, hform'] at heq
  have hsame := eq_of_enumerate_append
    (fun p hp => href p.1 (List.fst_mem_of_mem_zipIdx hp)) (List.append_cancel_left heq)
  refine (pairwise_lt_of_sublist hchosen).eq_of_mem_iff (pairwise_lt_of_sublist hchosen') ?_
  intro k
  by_cases hk : k ∈ places params
  · obtain ⟨⟨p, k⟩, hp, rfl⟩ := List.mem_map.mp hk
    obtain ⟨hmem, hvalue⟩ := List.mem_filter.mp hp
    have hcontains := hsame _ hmem hvalue
    rw [← List.contains_iff_mem, hcontains, List.contains_iff_mem]
  · exact iff_of_false (mt (hchosen.subset ·) hk) (mt (hchosen'.subset ·) hk)

end ProcedureHead

/-! ## Names of copies -/

/-- The name of a parameter does not begin with a capital. -/
theorem isUpper_eq_false_of_head?_paramName {k : Nat} {p : Param} {c : Char}
    (h : (paramName k p).head? = some c) : c.isUpper = false := by
  unfold paramName at h
  split at h
  · next d name hname =>
    obtain ⟨declared, _, hname⟩ := Option.map_eq_some_iff.mp hname
    rw [← hname] at h
    exact Text.isUpper_eq_false_of_head?_lowerFirst h
  · cases h
    decide

/-- A copy does not have the name of a parameter. -/
theorem copyName_ne_name {handles : Handles} {s : Signature} {h : ProcedureHead}
    {params : List BoundParam} (hprocedure : procedureOf handles s = .ok (h, params))
    {q : BoundParam} (hq : q ∈ params) (name : Text) : ProcedureHead.copyName name ≠ q.name := by
  intro he
  obtain ⟨method, _, hparams⟩ := exists_procedureNamed hprocedure
  have hmem : q ∈ (procedureNamed handles s method).2 := by rwa [hparams]
  obtain ⟨k, p, _, rfl⟩ := mem_procedureNamed.mp hmem
  have hhead : (paramName k p).head? = some 'C' := congrArg List.head? he.symm
  exact absurd (isUpper_eq_false_of_head?_paramName hhead) (by decide)

/-! ## All forms -/

/-- A list without repetitions loses nothing when they are left out. -/
theorem eraseDups_eq_self {α : Type} [BEq α] [LawfulBEq α] {xs : List α} (h : xs.Nodup) :
    xs.eraseDups = xs := by
  induction xs with
  | nil => rfl
  | cons x xs ih =>
    obtain ⟨hx, hxs⟩ := List.nodup_cons.mp h
    have hkept : xs.filter (fun y => !y == x) = xs := by
      refine List.filter_eq_self.mpr fun y hy => ?_
      rw [Bool.not_eq_true', beq_eq_false_iff_ne]
      rintro rfl
      exact hx hy
    rw [List.eraseDups_cons, hkept, ih hxs]

namespace ProcedureHead

/-- The forms are those for all choices, and all are different. -/
theorem forms_eq_map_and_nodup {h : ProcedureHead} {params : List BoundParam}
    (href : ∀ p ∈ params, IsPlainReference p) :
    h.forms params = (choices (places params)).map (h.form params) ∧ (h.forms params).Nodup := by
  have hnodup : ((choices (places params)).map (h.form params)).Nodup := by
    rw [choices_eq_sublists']
    refine List.Nodup.map_on (fun xs hxs ys hys heq => ?_)
      (List.nodup_sublists'.mpr (pairwise_lt_places params).nodup)
    exact eq_of_form_eq href (List.mem_sublists'.mp hxs) (List.mem_sublists'.mp hys) heq
  rw [forms, eraseDups_eq_self hnodup]
  exact ⟨rfl, hnodup⟩

/-- **Every choice of values has a form of its own.** Where the parameters that may be given by
value are references, the forms are those for all choices, in the order of their numbers, and no
two are the same. The first one stands for the foreign procedure. Each other one copies the chosen
parameters in their order and calls the procedure with the copies and with the remaining parameters.
No copy has the name of a parameter of a function. -/
theorem forms_of_references {h : ProcedureHead} {params : List BoundParam}
    (href : ∀ p ∈ params, IsPlainReference p) :
    h.forms params = (List.range (2 ^ params.countP (·.byValue))).map
        (fun i => (h.tree params (chosen i (places params))).text) ∧
      (h.forms params).Nodup ∧
      (∀ i form, (h.forms params)[i]? = some form → (ImportsForeign form ↔ i = 0)) ∧
      ∀ handles s, procedureOf handles s = .ok (h, params) →
        ∀ p ∈ params, ∀ q ∈ params, copyName p.name ≠ q.name := by
  obtain ⟨hforms, hnodup⟩ := forms_eq_map_and_nodup (h := h) href
  have htext : ∀ chosenPlaces ∈ choices (places params),
      h.form params chosenPlaces = (h.tree params chosenPlaces).text := by
    intro chosenPlaces hchosen
    rw [choices_eq_sublists', List.mem_sublists'] at hchosen
    exact h.form_eq_text hchosen
  refine ⟨?_, hnodup, ?_, fun handles s hs _ _ _ hq => copyName_ne_name hs hq _⟩
  · rw [hforms, List.map_congr_left htext, choices, List.map_map, length_places]
    rfl
  · intro i form hform
    obtain ⟨others, hchoices, hne⟩ := choices_eq_cons (places params)
    rw [hforms, List.map_congr_left htext, hchoices, List.map_cons] at hform
    cases i with
    | zero =>
      rw [List.getElem?_cons_zero, Option.some.injEq, tree, if_pos rfl] at hform
      exact iff_of_true ⟨_, _, hform.symm⟩ rfl
    | succ i =>
      refine iff_of_false ?_ (Nat.succ_ne_zero i)
      rw [List.getElem?_cons_succ, List.getElem?_map, Option.map_eq_some_iff] at hform
      obtain ⟨chosenPlaces, hchosen, rfl⟩ := hform
      rw [tree, if_neg (hne _ (List.mem_of_getElem? hchosen))]
      exact not_importsForeign_adapter _ _ _ _

/-- A procedure with two parameters that may be given by value and one between them that may not. -/
def lineHead : ProcedureHead :=
  { name := "draw", result := none, exported := true, setter := false, symbol := "sfLine_draw" }

def lineParams : List BoundParam :=
  [⟨"start", "var Vector2f", true⟩, ⟨"width", "cfloat", false⟩, ⟨"stop", "var Vector2f", true⟩]

/-- There are four different forms, and the second one copies the last parameter. -/
theorem forms_of_references_lineParams :
    (∀ p ∈ lineParams, IsPlainReference p) ∧
      lineHead.forms lineParams = (List.range (2 ^ 2)).map
        (fun i => (lineHead.tree lineParams (chosen i [0, 2])).text) ∧
      (lineHead.forms lineParams).Nodup ∧
      lineHead.tree lineParams (chosen 1 [0, 2]) = .adapter
        "proc draw*(start: (var Vector2f)\x7blvalue\x7d, width: cfloat, stop: Vector2f)"
        [("Cstop", "stop")] "draw" ["start", "width", "Cstop"] := by
  have href : ∀ p ∈ lineParams, IsPlainReference p := by
    intro p hp
    simp only [lineParams, List.mem_cons, List.not_mem_nil, or_false] at hp
    rcases hp with rfl | rfl | rfl
    · exact fun _ => ⟨"Vector2f", by with_unfolding_all decide⟩
    · exact nofun
    · exact fun _ => ⟨"Vector2f", by with_unfolding_all decide⟩
  obtain ⟨hforms, hnodup, _⟩ := forms_of_references (h := lineHead) href
  exact ⟨href, hforms, hnodup, by with_unfolding_all decide⟩

end ProcedureHead

end Bindery
