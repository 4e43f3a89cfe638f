import Bindery.Binding.Procedure
import Bindery.Proofs.Letter
import Bindery.Proofs.Replacing

/-!
# Where the signs of names and types come from

What the rules for names write is made of letters, digits and underscores, and those for types
also write spaces, brackets and commas. Any other sign stands in a name or a type of the target
language only where it stands in the C name or the C type.
-/

namespace Bindery

/-- A sign that stands before the digits: no rule for names writes one. -/
def IsSign (c : Char) : Prop := c.toNat < 48

instance (c : Char) : Decidable (IsSign c) := inferInstanceAs (Decidable (c.toNat < 48))

/-- A text without such signs. -/
def HasNoSign (t : Text) : Prop := ∀ c ∈ t, ¬ IsSign c

instance (t : Text) : Decidable (HasNoSign t) := List.decidableBAll _ t

variable {c : Char}

namespace Text

variable {t : Text}

/-- A text has the signs it had before its first letter became small. -/
theorem mem_of_mem_lowerFirst (hc : IsSign c) (h : c ∈ lowerFirst t) : c ∈ t := by
  cases t with
  | nil => exact h
  | cons d t =>
    rcases List.mem_append.mp h with h | h
    · rcases mem_lowerChar h with ⟨rfl, _⟩ | hcode
      · exact List.mem_cons_self
      · exact absurd (Nat.lt_of_le_of_lt hcode hc) (by decide)
    · exact List.mem_cons_of_mem d h

/-- What stands in some texts written with a separator between them stands in a text or in the
separator. -/
theorem mem_of_mem_intercalate {separator : Text} {ts : List Text}
    (h : c ∈ List.intercalate separator ts) : c ∈ separator ∨ ∃ t ∈ ts, c ∈ t := by
  induction ts with
  | nil => exact absurd h List.not_mem_nil
  | cons t ts ih =>
    cases ts with
    | nil =>
      rw [List.intercalate_singleton] at h
      exact Or.inr ⟨t, List.mem_cons_self, h⟩
    | cons s ts =>
      rw [List.intercalate_cons_cons, List.append_assoc] at h
      rcases List.mem_append.mp h with h | h
      · exact Or.inr ⟨t, List.mem_cons_self, h⟩
      · rcases List.mem_append.mp h with h | h
        · exact Or.inl h
        · refine (ih h).imp_right ?_
          rintro ⟨t', ht', hmem⟩
          exact ⟨t', List.mem_cons_of_mem t ht', hmem⟩

/-- What stands in some lines written one under the other, line feeds apart, stands in a line. -/
theorem mem_of_mem_unlines {lines : List Text} (hc : c ≠ '\n') (h : c ∈ unlines lines) :
    ∃ line ∈ lines, c ∈ line :=
  (mem_of_mem_intercalate h).resolve_left fun hmem => hc (List.mem_singleton.mp hmem)

/-- A piece of a text is part of it. -/
theorem subset_of_mem_splitOnP {p : Char → Bool} {piece : Text} (h : piece ∈ t.splitOnP p) :
    piece ⊆ t := by
  induction t generalizing piece with
  | nil =>
    rw [List.splitOnP_nil, List.mem_singleton] at h
    rw [h]
    exact List.Subset.refl []
  | cons d t ih =>
    rw [List.splitOnP_cons_eq_if_modifyHead] at h
    split at h
    · rcases List.mem_cons.mp h with rfl | h
      · exact List.nil_subset _
      · exact List.subset_cons_of_subset d (ih h)
    · obtain ⟨first, rest, hsplit⟩ := List.exists_cons_of_ne_nil (List.splitOnP_ne_nil p t)
      rw [hsplit, List.modifyHead_cons] at h
      rw [hsplit] at ih
      rcases List.mem_cons.mp h with rfl | h
      · exact List.cons_subset_cons d (ih List.mem_cons_self)
      · exact List.subset_cons_of_subset d (ih (List.mem_cons_of_mem first h))

theorem subset_of_mem_splitOn {line : Text} (h : line ∈ t.splitOn '\n') : line ⊆ t := by
  rw [List.splitOn_eq_splitOnP] at h
  exact subset_of_mem_splitOnP h

end Text

/-! ## Names -/

section Names

variable {name : Text}

/-- What the tables of names give has no sign. -/
private theorem hasNoSign_of_mem_tables :
    ∀ entry ∈ keywordNames ++ unmarkedNames ++ baseNames, HasNoSign entry.2 := by
  with_unfolding_all decide

private theorem not_mem_of_lookup {table : List (Text × Text)} {key value : Text}
    (htable : table ⊆ keywordNames ++ unmarkedNames ++ baseNames)
    (h : table.lookup key = some value) (hc : IsSign c) : c ∉ value :=
  fun hmem => hasNoSign_of_mem_tables _ (htable (mem_of_lookup h)) c hmem hc

/-- What the rules for names write has no sign. -/
private theorem hasNoSign_written : HasNoSign (Text.ofString "str" ++ Text.ofString "Str" ++
    Text.ofString "new" ++ Text.ofString "_setParameter" ++ Text.ofString "_U32" ++
    Text.ofString "pointer") := by
  with_unfolding_all decide

/-- A name without the library's beginning has its signs from the whole name. -/
theorem mem_of_mem_bareName? {bare : Text} (hc : IsSign c) (h : bareName? name = some bare)
    (hmem : c ∈ bare) : c ∈ name := by
  unfold bareName? at h
  split at h
  · next value hlookup =>
    cases h
    exact absurd hmem (not_mem_of_lookup (by simp) hlookup hc)
  · rw [Text.after?_eq_some_iff.mp h]
    exact List.mem_append_right libraryLead hmem

/-- The name of a procedure or a parameter has its signs from the C identifier. -/
theorem mem_of_mem_identifierName (hc : IsSign c) (h : c ∈ identifierName name) : c ∈ name := by
  rcases Text.mem_of_mem_replace (Text.mem_of_mem_lowerFirst hc h) with h | h
  · exact absurd hc (hasNoSign_written c (by simp [h]))
  rcases Text.mem_of_mem_replace h with h | h
  · exact absurd hc (hasNoSign_written c (by simp [h]))
  cases hlookup : keywordNames.lookup name with
  | none => rwa [hlookup] at h
  | some value =>
    rw [hlookup] at h
    exact absurd h (not_mem_of_lookup (by simp) hlookup hc)

namespace ProcedureName

variable {word t : Text}

/-- What precedes the last place of a word is part of the text. -/
theorem subset_of_beforeLast? {ends : Text → Bool} {left : Text}
    (h : beforeLast? word ends t = some left) : left ⊆ t := by
  fun_induction beforeLast? word ends t generalizing left with
  | case1 => cases h
  | case2 d t rest hrest ih =>
    cases h
    exact List.cons_subset_cons d (ih hrest)
  | case3 d t hnone rest hafter hends ih =>
    cases h
    exact List.cons_subset.mpr ⟨List.mem_cons_self, List.nil_subset _⟩
  | case4 => cases h
  | case5 => cases h

/-- What precedes the first place of a word is part of the text. -/
theorem subset_of_beforeFirst? {left : Text} (h : beforeFirst? word t = some left) : left ⊆ t := by
  fun_induction beforeFirst? word t generalizing left with
  | case1 => cases h
  | case2 d t e rest hafter =>
    cases h
    exact List.nil_subset _
  | case3 d t hnone ih =>
    obtain ⟨left', hleft, rfl⟩ := Option.map_eq_some_iff.mp h
    exact List.cons_subset_cons d (ih hleft)

private theorem eq_or_exists_of_mem_changeLine {f : Text → Option Text} {line : Text}
    {lines : List Text} (h : line ∈ changeLine f lines) :
    line ∈ lines ∨ ∃ old ∈ lines, f old = some line := by
  fun_induction changeLine f lines with
  | case1 => exact absurd h List.not_mem_nil
  | case2 old lines changed hchanged =>
    rcases List.mem_cons.mp h with rfl | h
    · exact Or.inr ⟨old, List.mem_cons_self, hchanged⟩
    · exact Or.inl (List.mem_cons_of_mem old h)
  | case3 old lines hnone ih =>
    rcases List.mem_cons.mp h with rfl | h
    · exact Or.inl List.mem_cons_self
    · rcases ih h with h | ⟨old', hold, hf⟩
      · exact Or.inl (List.mem_cons_of_mem old h)
      · exact Or.inr ⟨old', List.mem_cons_of_mem old hold, hf⟩

/-- A text in which a line may have been changed has its signs from the text and from the
change. -/
theorem mem_of_mem_onLine {f : Text → Option Text} {extra : Text}
    (hf : ∀ {line changed}, f line = some changed → changed ⊆ extra ++ line)
    (h : c ∈ onLine f t) : c ∈ extra ++ t := by
  unfold onLine at h
  by_cases hc : c = '\n'
  · -- The line feeds of the result are those of the text.
    by_cases hmem : c ∈ t
    · exact List.mem_append_right extra hmem
    · rw [List.splitOn_eq_singleton (hc ▸ hmem)] at h
      unfold changeLine at h
      split at h
      · next changed hchanged => exact hf hchanged (by rwa [Text.unlines_singleton] at h)
      · rw [changeLine, Text.unlines_singleton] at h
        exact absurd h hmem
  · obtain ⟨line, hline, hmem⟩ := Text.mem_of_mem_unlines hc h
    rcases eq_or_exists_of_mem_changeLine hline with hline | ⟨old, hold, hchanged⟩
    · exact List.mem_append_right extra (Text.subset_of_mem_splitOn hline hmem)
    · rcases List.mem_append.mp (hf hchanged hmem) with hmem | hmem
      · exact List.mem_append_left t hmem
      · exact List.mem_append_right extra (Text.subset_of_mem_splitOn hold hmem)

theorem mem_of_mem_ofConstructor (hc : IsSign c) (h : c ∈ ofConstructor t) : c ∈ t := by
  have hmem : c ∈ Text.ofString "new" ++ t := by
    refine mem_of_mem_onLine ?_ h
    intro line changed hchanged
    obtain ⟨left, hleft, rfl⟩ := Option.map_eq_some_iff.mp hchanged
    exact List.append_subset.mpr ⟨List.subset_append_left _ _,
      List.subset_append_of_subset_right _ (subset_of_beforeLast? hleft)⟩
  exact (List.mem_append.mp hmem).resolve_left fun hnew =>
    hasNoSign_written c (by simp [hnew]) hc

theorem mem_of_mem_dropVariant (h : c ∈ dropVariant word t) : c ∈ t := by
  have hmem : c ∈ [] ++ t := mem_of_mem_onLine subset_of_beforeLast? h
  exact hmem

theorem mem_of_mem_dropWindow (h : c ∈ dropWindow t) : c ∈ t := by
  unfold dropWindow at h
  split at h
  · next rest hrest =>
    dsimp only at h
    split at h
    · rw [Text.before?_eq_some_iff.mp hrest]
      exact List.mem_append_left windowEnding h
    · exact h
  · exact h

private theorem subset_lastLine :
    (lastLine t).1 ⊆ t ∧ (lastLine t).2 ⊆ t := by
  constructor
  · intro d hd
    exact List.mem_reverse.mp ((List.dropWhile_suffix _).subset (List.mem_reverse.mp hd))
  · intro d hd
    exact List.mem_reverse.mp ((List.takeWhile_prefix _).subset (List.mem_reverse.mp hd))

theorem mem_of_mem_mergeParameterSetters (hc : IsSign c) (h : c ∈ mergeParameterSetters t) :
    c ∈ t := by
  unfold mergeParameterSetters at h
  split at h
  · exact h
  split at h
  · next rest hrest =>
    dsimp only at h
    split at h
    · next left hleft =>
      have hmem : c ∈ rest := by
        rcases List.mem_append.mp h with h | h
        · rcases List.mem_append.mp h with h | h
          · exact subset_lastLine.1 h
          · exact subset_lastLine.2 (subset_of_beforeFirst? hleft h)
        · exact absurd hc (hasNoSign_written c (by simp [h]))
      rw [Text.before?_eq_some_iff.mp hrest]
      exact List.mem_append_left _ hmem
    · exact h
  · exact h

theorem not_mem_wideEnding (hc : IsSign c) (cName : Text) : c ∉ wideEnding cName := by
  unfold wideEnding
  split
  · exact fun h => hasNoSign_written c (by simp [h]) hc
  · exact List.not_mem_nil

/-- What is left of a name behind its receiver is part of the name. -/
theorem mem_of_mem_dropReceiver {handles : Handles} {params : List Param}
    (h : c ∈ dropReceiver handles params t) : c ∈ t := by
  unfold dropReceiver at h
  split at h
  · exact h
  · next first rest =>
    cases hafter : Text.after? (dereference (typeName handles [] first.type) ++ ['_']) t with
    | none => rwa [hafter] at h
    | some left =>
      rw [hafter] at h
      rw [Text.after?_eq_some_iff.mp hafter]
      exact List.mem_append_right _ h

/-- The name of a procedure before its receiver is dropped. -/
def wholeName (bare cName : Text) : Text :=
  mergeParameterSetters (dropWindow (dropVariant "With" (dropVariant "_from" (ofConstructor bare))))
    ++ wideEnding cName

/-- The whole name of a procedure has its signs from the C name. -/
theorem mem_of_mem_wholeName {cName : Text} (hc : IsSign c) (h : c ∈ wholeName t cName) :
    c ∈ t := by
  rcases List.mem_append.mp h with h | h
  · exact mem_of_mem_ofConstructor hc (mem_of_mem_dropVariant (mem_of_mem_dropVariant
      (mem_of_mem_dropWindow (mem_of_mem_mergeParameterSetters hc h))))
  · exact absurd h (not_mem_wideEnding hc cName)

end ProcedureName

open ProcedureName

theorem methodName_eq {handles : Handles} {cName : Text} {params : List Param} :
    methodName handles cName params = (bareName cName).map fun bare =>
      identifierName (dropReceiver handles params (wholeName bare cName)) := by
  unfold methodName
  cases bareName cName <;> rfl

/-- The name of a method has its signs from the C name. -/
theorem mem_of_mem_methodName {handles : Handles} {cName : Text} {params : List Param}
    (hc : IsSign c) (hname : methodName handles cName params = .ok name) (h : c ∈ name) :
    c ∈ cName := by
  rw [methodName_eq, bareName] at hname
  cases hbare : bareName? cName with
  | none =>
    rw [hbare] at hname
    cases hname
  | some bare =>
    rw [hbare] at hname
    cases hname
    exact mem_of_mem_bareName? hc hbare
      (mem_of_mem_wholeName hc (mem_of_mem_dropReceiver (mem_of_mem_identifierName hc h)))

namespace CallName

private theorem mem_of_mem_property? {word property : Text} (hc : IsSign c)
    (h : property? word name = some property) (hmem : c ∈ property) : c ∈ name := by
  unfold property? at h
  split at h
  · next d rest hafter =>
    split at h
    · cases h
      rw [Text.after?_eq_some_iff.mp hafter]
      exact List.mem_append_right word (Text.mem_of_mem_lowerFirst hc hmem)
    · cases h
  · cases h

/-- What is called has its signs from the name of the method. -/
theorem mem_of_mem_ofMethod {n : Nat} (hc : IsSign c) (h : c ∈ (ofMethod name n).name) :
    c ∈ name := by
  unfold ofMethod at h
  split at h
  · cases hget : property? "get" name with
    | some property =>
      rw [hget] at h
      exact mem_of_mem_property? hc hget h
    | none =>
      cases his : property? "is" name with
      | some property =>
        rw [hget, his] at h
        exact mem_of_mem_property? hc his h
      | none => rwa [hget, his] at h
  · split at h
    · cases hset : property? "set" name with
      | some property =>
        rw [hset] at h
        exact mem_of_mem_property? hc hset h
      | none => rwa [hset] at h
    · exact h

theorem mem_of_mem_dropWide {call : CallName} (hc : IsSign c) (h : c ∈ call.dropWide.name) :
    c ∈ call.name := by
  unfold dropWide at h
  split at h
  · next d rest hafter =>
    rw [Text.after?_eq_some_iff.mp hafter]
    exact List.mem_append_right _ (Text.mem_of_mem_lowerFirst hc h)
  · exact h

end CallName

private theorem not_isSign_textMark : ¬ IsSign textMark := by decide

private theorem mem_of_mem_ite {p : Prop} [Decidable p] {t : Text} (hc : IsSign c)
    (h : c ∈ if p then t ++ [textMark] else t) : c ∈ t := by
  split at h
  · refine (List.mem_append.mp h).resolve_right fun hmem => ?_
    exact not_isSign_textMark (List.mem_singleton.mp hmem ▸ hc)
  · exact h

/-- A name among the convenient ones has its signs from the name itself. -/
theorem mem_of_mem_markText {returnsText takesText : Bool} (hc : IsSign c)
    (h : c ∈ markText name returnsText takesText) : c ∈ name := by
  unfold markText at h
  exact mem_of_mem_ite hc (mem_of_mem_ite hc h)

/-- The procedure of a function whose method has a name. -/
def procedureNamed (handles : Handles) (s : Signature) (method : Text) :
    ProcedureHead × List BoundParam :=
  let params := effectiveParams s.params
  let call := (CallName.ofMethod method params.length).dropWide
  let result := resultType handles s.result
  let shown := typeInPlace s.name call.name result
  ({ name := markText call.name (isCString result) (takesText handles params)
     result := if shown = Text.ofString "void" then none else some shown
     exported := !(isWideText result || (params.map (paramType handles)).any isWideText)
     setter := call.setter
     symbol := s.name },
    params.zipIdx.map fun (p, i) => bindParam handles s.name i p)

/-- Only the name of the method can be missing to a procedure. -/
theorem procedureOf_eq {handles : Handles} {s : Signature} : procedureOf handles s =
    (methodName handles s.name (effectiveParams s.params)).map (procedureNamed handles s) := by
  unfold procedureOf
  dsimp only
  cases methodName handles s.name (effectiveParams s.params) <;> rfl

/-- A procedure has the name that is found for its method. -/
theorem exists_procedureNamed {handles : Handles} {s : Signature}
    {p : ProcedureHead × List BoundParam} (h : procedureOf handles s = .ok p) :
    ∃ method, methodName handles s.name (effectiveParams s.params) = .ok method ∧
      procedureNamed handles s method = p := by
  rw [procedureOf_eq] at h
  cases hmethod : methodName handles s.name (effectiveParams s.params) with
  | error fault =>
    rw [hmethod] at h
    cases h
  | ok method =>
    rw [hmethod] at h
    exact ⟨method, rfl, Except.ok.inj h⟩

/-- The parameters of a procedure are those of its function in their order. -/
theorem getElem?_procedureNamed {handles : Handles} {s : Signature} {method : Text} {k : Nat} :
    (procedureNamed handles s method).2[k]? =
      (effectiveParams s.params)[k]?.map (bindParam handles s.name k) := by
  rw [procedureNamed]
  dsimp only
  rw [List.getElem?_map, List.getElem?_zipIdx]
  cases (effectiveParams s.params)[k]? <;> simp

end Names

/-! ## Types -/

section Types

variable {t : Text}

/-- A sign that the rules for types do not write either, such as a quotation mark, a number sign
or a line end: other than the space, it stands before all punctuation of types. -/
def IsRareSign (c : Char) : Prop := c.toNat < 36 ∧ c ≠ ' '

instance (c : Char) : Decidable (IsRareSign c) := inferInstanceAs (Decidable (_ ∧ _))

theorem IsRareSign.isSign (hc : IsRareSign c) : IsSign c := Nat.lt_trans hc.1 (by decide)

/-- A text without such signs. -/
def HasNoRareSign (t : Text) : Prop := ∀ c ∈ t, ¬ IsRareSign c

instance (t : Text) : Decidable (HasNoRareSign t) := List.decidableBAll _ t

theorem HasNoRareSign.not_mem (h : HasNoRareSign t) (hc : IsRareSign c) : c ∉ t :=
  fun hmem => h c hmem hc

/-- What is taken off the end as a size, and what is left, are parts of the spelling. -/
theorem subset_of_takeSize? {inner size : Text} (h : takeSize? t = some (inner, size)) :
    inner ⊆ t ∧ size ⊆ t := by
  unfold takeSize? at h
  split at h
  · next rest hrest =>
    have hsub : rest ⊆ t := fun d hd => List.mem_reverse.mp (hrest ▸ List.mem_cons_of_mem _ hd)
    split at h
    · next left hleft =>
      dsimp only at h
      split at h
      · cases h
      · cases h
        constructor
        · intro d hd
          refine hsub ((List.dropWhile_suffix isSizePart).subset ?_)
          rw [hleft]
          exact List.mem_cons_of_mem _ (List.mem_reverse.mp hd)
        · intro d hd
          have hmem := List.mem_reverse.mp ((Text.trim_infix _).subset hd)
          exact hsub ((List.takeWhile_prefix isSizePart).subset hmem)
    · cases h
  · cases h

theorem mem_of_mem_widthName (hc : IsSign c) (h : c ∈ widthName t) : c ∈ t := by
  unfold widthName at h
  split at h
  · next bare hbare =>
    split at h
    · rw [Text.after?_eq_some_iff.mp hbare]
      exact List.mem_append_right _ (Text.mem_of_mem_lower h (Nat.lt_trans hc (by decide)))
    · exact h
  · exact h

/-- The word that is left out of a spelling is not written. -/
theorem mem_of_mem_rewrite_constRule (h : c ∈ Text.rewrite constRule t) : c ∈ t := by
  refine (Text.mem_of_mem_rewriteFrom h).resolve_left ?_
  rintro ⟨last, d, rest, change, hchange, hmem⟩
  unfold constRule at hchange
  split at hchange
  · split at hchange
    · split at hchange
      · cases hchange
        exact List.not_mem_nil hmem
      · cases hchange
    · cases hchange
  · cases hchange

/-- The base name in a spelling without a size. -/
private theorem mem_of_mem_base {name : Text} (hc : IsSign c)
    (h : c ∈ (baseNames.lookup (Text.trim (name.reverse.dropWhile isPointerPart).reverse)).getD
      (Text.trim (name.reverse.dropWhile isPointerPart).reverse)) : c ∈ name := by
  cases hlookup : baseNames.lookup (Text.trim (name.reverse.dropWhile isPointerPart).reverse) with
  | some value =>
    rw [hlookup] at h
    exact absurd h (not_mem_of_lookup (by simp) hlookup hc)
  | none =>
    rw [hlookup] at h
    have hmem := List.mem_reverse.mp ((Text.trim_infix _).subset h)
    exact List.mem_reverse.mp ((List.dropWhile_suffix isPointerPart).subset hmem)

/-- The base name of a type has its signs from the spelling. -/
theorem mem_of_mem_base_ofText (hc : IsSign c) (h : c ∈ (CType.ofText t).base) : c ∈ t := by
  have hspelling : ∀ {spelling : Text},
      c ∈ widthName (Text.trim (Text.rewrite constRule spelling)) → c ∈ spelling := fun hmem =>
    mem_of_mem_rewrite_constRule ((Text.trim_infix _).subset (mem_of_mem_widthName hc hmem))
  unfold CType.ofText at h
  cases hsize : takeSize? t with
  | some cut =>
    rw [hsize] at h
    exact (subset_of_takeSize? hsize).1 (hspelling (mem_of_mem_base hc h))
  | none =>
    rw [hsize] at h
    exact hspelling (mem_of_mem_base hc h)

/-- The size of an array type is part of its spelling. -/
theorem subset_of_size_ofText {size : Text} (h : (CType.ofText t).size = some size) : size ⊆ t := by
  unfold CType.ofText at h
  cases hsize : takeSize? t with
  | some cut =>
    rw [hsize] at h
    cases h
    exact (subset_of_takeSize? hsize).2
  | none =>
    rw [hsize] at h
    cases h

/-- What the rules for types write has no rare sign. -/
private theorem hasNoRareSign_writtenType : HasNoRareSign (Text.ofString "ptr " ++ referenceMark ++
    Text.ofString "cstring" ++ Text.ofString "array[" ++ Text.ofString ", " ++ [']']) := by
  with_unfolding_all decide

namespace TargetType

variable {handles : Handles} {hint : Text} {type : CType}

private theorem mem_of_mem_base_ofVoid (hc : IsSign c) (h : c ∈ (ofVoid type).base) :
    c ∈ type.base := by
  unfold ofVoid at h
  split at h
  · exact absurd hc (hasNoSign_written c (by simp [h]))
  · exact h

private theorem size_ofVoid : (ofVoid type).size = type.size := by
  unfold ofVoid
  split <;> rfl

private theorem mem_of_mem_getD_bareName? {name : Text} (hc : IsSign c)
    (h : c ∈ (bareName? name).getD name) : c ∈ name := by
  cases hbare : bareName? name with
  | some bare =>
    rw [hbare] at h
    exact mem_of_mem_bareName? hc hbare h
  | none => rwa [hbare] at h

theorem name_ofCType : (ofCType handles hint type).name =
    (bareName? (ofVoid type).base).getD (ofVoid type).base := by
  unfold ofCType
  dsimp only
  split
  · split
    · rfl
    · split <;> rfl
  · rfl

theorem size_ofCType : (ofCType handles hint type).size = type.size := by
  rw [← size_ofVoid]
  unfold ofCType
  dsimp only
  split
  · split
    · rfl
    · split <;> rfl
  · rfl

/-- The name in a target type has its signs from the base name. -/
theorem mem_of_mem_name_ofCType (hc : IsSign c) (h : c ∈ (ofCType handles hint type).name) :
    c ∈ type.base := by
  rw [name_ofCType] at h
  exact mem_of_mem_base_ofVoid hc (mem_of_mem_getD_bareName? hc h)

private theorem mem_of_mem_written {t : TargetType} (hc : IsRareSign c)
    (h : c ∈ (List.replicate t.pointers (Text.ofString "ptr ")).flatten ++
      (if t.reference then referenceMark else []) ++ t.name) : c ∈ t.name := by
  rcases List.mem_append.mp h with h | h
  · rcases List.mem_append.mp h with h | h
    · obtain ⟨mark, hmark, hmem⟩ := List.mem_flatten.mp h
      rw [List.eq_of_mem_replicate hmark] at hmem
      exact absurd hc (hasNoRareSign_writtenType c (by simp [hmem]))
    · split at h
      · exact absurd hc (hasNoRareSign_writtenType c (by simp [h]))
      · exact absurd h List.not_mem_nil
  · exact h

theorem mem_of_mem_renderElement {t : TargetType} (hc : IsRareSign c) (h : c ∈ t.renderElement) :
    c ∈ t.name := by
  unfold renderElement at h
  extract_lets written at h
  by_cases hwritten : written = Text.ofString "ptr char"
  · rw [if_pos hwritten] at h
    exact absurd hc (hasNoRareSign_writtenType c (by simp [h]))
  · rw [if_neg hwritten] at h
    exact mem_of_mem_written hc h

/-- A target type in writing has its signs from the name and the size. -/
theorem mem_of_mem_render {t : TargetType} (hc : IsRareSign c) (h : c ∈ t.render) :
    c ∈ t.name ∨ ∃ size, t.size = some size ∧ c ∈ size := by
  unfold render at h
  split at h
  · next size hsize =>
    have hmarks := hasNoRareSign_writtenType.not_mem hc
    simp only [List.mem_append, not_or] at h hmarks
    rcases h with (((h | h) | h) | h) | h
    · simp [hmarks] at h
    · exact Or.inr ⟨size, hsize, h⟩
    · simp [hmarks] at h
    · exact Or.inl (mem_of_mem_renderElement hc h)
    · simp [hmarks] at h
  · exact Or.inl (mem_of_mem_renderElement hc h)

end TargetType

/-- A type in writing has its signs from the spelling. -/
theorem mem_of_mem_typeName {handles : Handles} {hint : Text} (hc : IsRareSign c)
    (h : c ∈ typeName handles hint t) : c ∈ t := by
  rcases TargetType.mem_of_mem_render hc h with hname | ⟨size, hsize, hmem⟩
  · exact mem_of_mem_base_ofText hc.isSign (TargetType.mem_of_mem_name_ofCType hc.isSign hname)
  · rw [TargetType.size_ofCType] at hsize
    exact subset_of_size_ofText hsize hmem

/-- A type without the mark of a reference is part of the type. -/
theorem subset_dereference (type : Text) : dereference type ⊆ type := by
  unfold dereference
  cases hafter : Text.after? referenceMark type with
  | none => exact List.Subset.refl type
  | some rest =>
    rw [Text.after?_eq_some_iff.mp hafter]
    exact List.subset_append_right referenceMark rest

end Types

end Bindery
