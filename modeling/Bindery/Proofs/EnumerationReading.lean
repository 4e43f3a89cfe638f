import Bindery.Binding.Basic
import Bindery.Proofs.CommonLead
import Bindery.Proofs.DeclaredName
import Bindery.Proofs.EnumerationValue

/-!
# Enumerations read back

The members of an enumeration are read back from the lines they are written in: they stand between
commas, each with its value behind an equals sign. So what is known about the values of members
holds of the written enumeration.
-/

namespace Bindery

/-! ## Letters of literals -/

namespace Text

/-- Where all of some things can be read, there are as many results, and each can be read. -/
theorem length_eq_and_of_mapM_eq_some {f : α → Option β} {xs : List α} {ys : List β}
    (h : xs.mapM f = some ys) : ys.length = xs.length ∧ ∀ x ∈ xs, (f x).isSome = true := by
  induction xs generalizing ys with
  | nil =>
    cases h
    exact ⟨rfl, fun _ hx => absurd hx List.not_mem_nil⟩
  | cons x xs ih =>
    rw [List.mapM_cons, Option.bind_eq_bind, Option.bind_eq_some_iff] at h
    obtain ⟨y, hy, h⟩ := h
    obtain ⟨ys', hys, h⟩ := Option.bind_eq_some_iff.mp h
    cases h
    obtain ⟨hlength, hall⟩ := ih hys
    refine ⟨congrArg (· + 1) hlength, ?_⟩
    intro z hz
    rcases List.mem_cons.mp hz with rfl | hz
    · rw [hy]
      rfl
    · exact hall z hz

/-- A text without blanks and marks, which is a single token unless it is empty. -/
def IsPlain (t : Text) : Prop := ∀ c ∈ t, isBlank c = false ∧ isMark c = false

instance (t : Text) : Decidable (IsPlain t) := List.decidableBAll _ t

theorem IsWordy.isPlain {t : Text} (h : IsWordy t) : IsPlain t := by
  intro c hc
  refine ⟨isBlank_eq_false_of_isWord (h c hc), ?_⟩
  rw [isMark, Bool.or_eq_false_iff, beq_eq_false_iff_ne, beq_eq_false_iff_ne]
  constructor
  · rintro rfl
    exact h.not_mem (by decide) hc
  · rintro rfl
    exact h.not_mem (by decide) hc

/-- Digits in a base of at most sixteen are letters or decimal digits. -/
theorem isWord_of_digit? {base : Nat} {c : Char} (h : (digit? base c).isSome = true) :
    isWord c = true := by
  have hdigit : c.isDigit = true ∨ 97 ≤ c.toNat ∧ c.toNat ≤ 102 ∨
      65 ≤ c.toNat ∧ c.toNat ≤ 70 := by
    unfold digit? at h
    grind
  refine isWord_of_isAsciiWord ?_
  have halpha : c.isAlpha =
      (decide (c.val ≥ 65 ∧ c.val ≤ 90) || (decide (c.val ≥ 97) && decide (c.val ≤ 122))) := rfl
  simp only [isAsciiWord, Char.isAlphanum, halpha, Char.isDigit, Bool.or_eq_true,
    Bool.and_eq_true, decide_eq_true_eq, UInt32.le_iff_toNat_le, ge_iff_le, Char.toNat,
    Char.reduceVal, UInt32.reduceToNat] at hdigit ⊢
  exact Or.inl (by omega)

/-- Digits are plain. -/
theorem isPlain_of_natural? {base n : Nat} {t : Text} (h : natural? base t = some n) :
    t ≠ [] ∧ IsPlain t := by
  cases t with
  | nil => cases h
  | cons c t =>
    refine ⟨List.cons_ne_nil c t, IsWordy.isPlain fun d hd => ?_⟩
    obtain ⟨digits, hdigits, -⟩ := Option.map_eq_some_iff.mp h
    exact isWord_of_digit? ((length_eq_and_of_mapM_eq_some hdigits).2 d hd)

theorem IsPlain.append {s t : Text} (hs : IsPlain s) (ht : IsPlain t) : IsPlain (s ++ t) :=
  fun c hc => (List.mem_append.mp hc).elim (hs c) (ht c)

end Text

/-- Digits are plain, also behind the mark of hexadecimal ones. -/
theorem isPlain_of_magnitude {base n : Nat} {t : Text}
    (h : (match Text.hexadecimal? t with
      | some digits => Text.natural? 16 digits
      | none => Text.natural? base t) = some n) : t ≠ [] ∧ Text.IsPlain t := by
  split at h
  · next digits hmark =>
    obtain ⟨hne, hplain⟩ := Text.isPlain_of_natural? h
    obtain ⟨lead, hlead, rfl⟩ : ∃ lead, Text.IsPlain lead ∧ t = lead ++ digits := by
      unfold Text.hexadecimal? at hmark
      cases hsmall : Text.after? "0x" t with
      | some rest =>
        rw [hsmall] at hmark
        cases hmark
        exact ⟨_, by with_unfolding_all decide, Text.after?_eq_some_iff.mp hsmall⟩
      | none =>
        rw [hsmall] at hmark
        exact ⟨_, by with_unfolding_all decide, Text.after?_eq_some_iff.mp hmark⟩
    exact ⟨List.append_ne_nil_of_right_ne_nil lead hne, hlead.append hplain⟩
  · exact Text.isPlain_of_natural? h

/-- The digits of a literal are plain. -/
theorem isPlain_of_cMagnitude? {t : Text} {n : Nat} (h : cMagnitude? t = some n) :
    t ≠ [] ∧ Text.IsPlain t :=
  isPlain_of_magnitude h

/-- A literal is plain. -/
theorem isPlain_of_cLiteral? {t : Text} {v : Int} (h : cLiteral? t = some v) :
    t ≠ [] ∧ Text.IsPlain t := by
  replace h := (Option.filter_eq_some_iff.mp h).1
  split at h
  · next digits =>
    obtain ⟨n, hn, -⟩ := Option.map_eq_some_iff.mp h
    have hsign : Text.IsPlain ['-'] := by decide
    exact ⟨List.cons_ne_nil '-' digits, hsign.append (isPlain_of_cMagnitude? hn).2⟩
  · obtain ⟨n, hn, -⟩ := Option.map_eq_some_iff.mp h
    exact isPlain_of_cMagnitude? hn

namespace Enumerator

/-! ## Members in the order in which they are shown -/

section Shown

variable {items : List Enumerator} {right : Text × Int → Prop}

/-- What all names of some members begin with. -/
def nameLead (items : List Enumerator) : Text := Text.commonLeadOf (items.map (·.name))

/-- A member without what all names begin with. -/
def shorten (items : List Enumerator) (e : Enumerator) : Enumerator :=
  rename (·.drop (nameLead items).length) e

/-- A shortened name is given back by what all names begin with. -/
theorem rename_shorten {e : Enumerator} (he : e ∈ items) :
    rename (nameLead items ++ ·) (shorten items e) = e := by
  have hmem : e.name ∈ items.map (·.name) := List.mem_map_of_mem he
  obtain ⟨rest, hrest⟩ := Text.commonLeadOf_prefix_of_mem hmem
  have hname : nameLead items ++ e.name.drop (nameLead items).length = e.name := by
    conv_lhs => rw [← hrest]
    rw [nameLead, List.drop_left]
    exact hrest
  exact congrArg (fun name => { e with name := name }) hname

theorem map_rename_withoutLead (items : List Enumerator) :
    (withoutLead items).map (rename (nameLead items ++ ·)) = items := by
  rw [withoutLead, List.map_map]
  exact (List.map_congr_left fun e he => rename_shorten he).trans (List.map_id items)

/-- Members are put in another order only if all have values. -/
theorem ordered_perm_and (items : List Enumerator) : (ordered items).Perm items ∧
    (ordered items = items ∨ ∀ e ∈ items, e.value.isSome = true) := by
  unfold ordered
  split
  · next numbers hnumbers =>
    obtain ⟨hlength, hread⟩ := Text.length_eq_and_of_mapM_eq_some hnumbers
    constructor
    · refine ((List.mergeSort_perm _ _).map _).trans ?_
      rw [List.map_snd_zip hlength.ge]
    · right
      intro e he
      obtain ⟨t, ht, -⟩ := Option.bind_eq_some_iff.mp (Option.eq_some_of_isSome (hread e he))
      exact Option.isSome_iff_exists.mpr ⟨t, ht⟩
  · exact ⟨List.Perm.refl items, Or.inl rfl⟩

theorem kept_map_rename (f : Text → Text) (items : List Enumerator) :
    kept (items.map (rename f)) = (kept items).map (rename f) := by
  rw [kept, List.filter_map]
  rfl

/-- The members that are shown are those that are no second names, in some order. -/
theorem shown_perm (items : List Enumerator) :
    (shown items).Perm ((kept items).map (shorten items)) := by
  have hkept : kept (withoutLead items) = (kept items).map (shorten items) :=
    kept_map_rename _ items
  rw [← hkept]
  exact (ordered_perm_and (withoutLead items)).1.filter _

/-- The members that are shown are right exactly when those that are no second names are, in their
own order and with their own names. -/
theorem readAs_shown_iff :
    ReadAs (fun m => right (nameLead items ++ m.1, m.2)) (shown items) ↔
      ReadAs right (kept items) := by
  obtain ⟨hperm, hordered⟩ := ordered_perm_and (withoutLead items)
  have hsame : ReadAs (fun m => right (nameLead items ++ m.1, m.2)) (shown items) ↔
      ReadAs (fun m => right (nameLead items ++ m.1, m.2)) (kept (withoutLead items)) := by
    rcases hordered with heq | hvalues
    · rw [shown, heq, kept]
    · refine (readAs_iff_of_perm (hperm.filter _).symm ?_).symm
      exact fun e he => hvalues e (List.mem_of_mem_filter he)
  rw [hsame, ← readAs_map_rename_iff, ← kept_map_rename, map_rename_withoutLead]

end Shown

/-! ## Members in writing -/

/-- A member from its tokens: its name before the equals sign, and its value behind. -/
def ofTokens (ts : List Text) : Enumerator where
  name := (ts.takeWhile (· != ['='])).flatten
  value :=
    match ts.dropWhile (· != ['=']) with
    | [] => none
    | _ :: value => some value.flatten

/-- The members that some lines say, between commas; blank lines say none. -/
def ofText (t : Text) : List Enumerator :=
  match Text.tokens t with
  | [] => []
  | ts => (ts.splitOn [',']).map ofTokens

/-- The tokens of a member: its name, if that is not empty, and its value behind an equals sign. -/
def toTokens (e : Enumerator) : List Text :=
  (if e.name = [] then [] else [e.name]) ++
    match e.value with
    | some v => [['='], v]
    | none => []

/-- The name and the value of a member are one token each. -/
structure IsReadable (e : Enumerator) : Prop where
  /-- The name has no blanks and marks. -/
  name : Text.IsPlain e.name
  /-- The value has none, and is not empty. -/
  value : ∀ v ∈ e.value, v ≠ [] ∧ Text.IsPlain v

section Writing

variable {e : Enumerator} {items : List Enumerator} {right : Text × Int → Prop}

theorem tokens_assigned (h : e.IsReadable) : Text.tokens (assigned e.name e.value) = toTokens e := by
  have hname : Text.tokens e.name = if e.name = [] then [] else [e.name] := by
    split
    · next hnil => rw [hnil, Text.tokens_nil]
    · next hne => exact Text.tokens_of_forall hne h.name
  unfold assigned toTokens
  cases hvalue : e.value with
  | none => rw [hname, List.append_nil]
  | some v =>
    obtain ⟨hne, hplain⟩ := h.value v hvalue
    have hmark : Text.tokens ('=' :: ' ' :: v) = [['='], v] := by
      rw [Text.tokens_cons_mark (by decide), Text.tokens_cons_blank (by decide),
        Text.tokens_of_forall hne hplain]
    have hsign : Text.ofString " = " = [' ', '=', ' '] := by with_unfolding_all decide
    rw [hsign]
    dsimp only
    rw [List.append_assoc, List.cons_append, Text.tokens_append_blank (by decide), ← hname]
    exact congrArg (Text.tokens e.name ++ ·) hmark

theorem ne_of_isPlain {t : Text} {c : Char} (h : Text.IsPlain t) (hc : Text.isMark c = true) :
    t ≠ [c] := by
  rintro rfl
  rw [(h c List.mem_cons_self).2] at hc
  cases hc

/-- A member is read back from its tokens. -/
theorem ofTokens_toTokens (h : e.IsReadable) : ofTokens (toTokens e) = e := by
  obtain ⟨name, value⟩ := e
  have hname : name ≠ ['='] := ne_of_isPlain h.name (by decide)
  by_cases hnil : name = []
  · subst hnil
    cases value <;> simp [toTokens, ofTokens]
  · cases value <;> simp [toTokens, ofTokens, hnil, hname]

theorem not_mem_toTokens (h : e.IsReadable) : [','] ∉ toTokens e := by
  have hname : [','] ≠ e.name := (ne_of_isPlain h.name (by decide)).symm
  have hvalue : ∀ v ∈ e.value, [','] ≠ v := fun v hv =>
    (ne_of_isPlain (h.value v hv).2 (by decide)).symm
  unfold toTokens
  intro hmem
  rcases List.mem_append.mp hmem with hmem | hmem
  · split at hmem
    · cases hmem
    · exact hname (List.mem_singleton.mp hmem)
  · cases hv : e.value with
    | none =>
      rw [hv] at hmem
      cases hmem
    | some v =>
      rw [hv] at hmem
      simp only [List.mem_cons, List.cons.injEq, Char.reduceEq, false_and, List.not_mem_nil,
        or_false, false_or] at hmem
      exact hvalue v hv hmem

/-- The tokens of a list are those of its items, between commas. -/
theorem tokens_list (ts : List Text) : Text.tokens (List.intercalate (Text.ofString ", ") ts) =
    List.intercalate [[',']] (ts.map Text.tokens) := by
  have hcomma : Text.ofString ", " = [',', ' '] := by with_unfolding_all decide
  rw [hcomma]
  induction ts with
  | nil => exact Text.tokens_nil
  | cons t ts ih =>
    cases ts with
    | nil => rw [List.map_singleton, List.intercalate_singleton, List.intercalate_singleton]
    | cons next ts =>
      rw [List.map_cons, List.map_cons, List.intercalate_cons_cons, List.intercalate_cons_cons,
        List.append_assoc, List.cons_append, Text.tokens_append_mark (by decide),
        List.singleton_append, Text.tokens_cons_blank (by decide), ih, List.append_assoc]
      rfl

/-- The members in writing have the tokens of those that are shown. -/
theorem tokens_render (h : ∀ e ∈ shown items, e.IsReadable) : Text.tokens (render items) =
    List.intercalate [[',']] ((shown items).map toTokens) := by
  rw [render, Text.tokens_unlines_wrap (by with_unfolding_all decide), tokens_list, List.map_map]
  exact congrArg _ (List.map_congr_left fun e he => tokens_assigned (h e he))

/-- The members that are shown are read back, except for a single one without name and value. -/
theorem ofText_render (h : ∀ e ∈ shown items, e.IsReadable) :
    ofText (render items) = shown items ∨
      shown items = [⟨[], none⟩] ∧ ofText (render items) = [] := by
  by_cases hnone : shown items = []
  · left
    rw [ofText, tokens_render h, hnone]
    rfl
  have hsplit : (List.intercalate [[',']] ((shown items).map toTokens)).splitOn [','] =
      (shown items).map toTokens := by
    apply List.splitOn_intercalate
    · intro ts hts
      obtain ⟨e, he, rfl⟩ := List.mem_map.mp hts
      exact not_mem_toTokens (h e he)
    · exact fun hnil => hnone (List.map_eq_nil_iff.mp hnil)
  rw [ofText, tokens_render h]
  cases htokens : List.intercalate [[',']] ((shown items).map toTokens) with
  | nil =>
    right
    rw [htokens] at hsplit
    obtain ⟨e, he, hempty⟩ := List.map_eq_singleton_iff.mp hsplit.symm
    have hread := ofTokens_toTokens (h e (he ▸ List.mem_cons_self))
    rw [hempty] at hread
    rw [he, ← hread]
    exact ⟨rfl, rfl⟩
  | cons t ts =>
    left
    dsimp only
    rw [← htokens, hsplit, List.map_map]
    exact (List.map_congr_left fun e he => ofTokens_toTokens (h e he)).trans (List.map_id _)

end Writing

section Legal

variable {items : List Enumerator} {values : Values}

/-- Members that C accepts can be read back. -/
theorem Legal.isReadable (h : Legal items values) : ∀ e ∈ shown items, e.IsReadable := by
  intro e he
  obtain ⟨e, hkept, rfl⟩ := List.mem_map.mp ((shown_perm items).mem_iff.mp he)
  constructor
  · have hwordy := (h.names e (kept_subset hkept)).2
    exact Text.IsWordy.isPlain fun c hc => hwordy c (List.mem_of_mem_drop hc)
  · intro t ht
    obtain ⟨v, hv⟩ := h.exists_cLiteral? hkept ht
    exact isPlain_of_cLiteral? hv

/-- A single member that is shown without name and value has the value zero. -/
theorem Legal.readAs_of_nameless (h : Legal items values) (hshown : shown items = [⟨[], none⟩]) :
    ReadAs (fun m => (nameLead items ++ m.1, m.2) ∈ values) (shown items) := by
  have hperm := shown_perm items
  rw [hshown] at hperm ⊢
  have hne : items ≠ [] := by
    rintro rfl
    exact List.not_mem_nil (hperm.mem_iff.mp List.mem_cons_self)
  obtain ⟨e, rest, rfl⟩ := List.exists_cons_of_ne_nil hne
  obtain ⟨v, hgiven, hmem⟩ := h.exists_givenBy_head rfl
  have hkept : e ∈ kept (e :: rest) := mem_kept_iff.mpr ⟨List.mem_cons_self, hgiven.isSecondName_eq_false⟩
  have hshort : shorten (e :: rest) e = ⟨[], none⟩ :=
    List.mem_singleton.mp (hperm.mem_iff.mpr (List.mem_map_of_mem hkept))
  have he : rename (nameLead (e :: rest) ++ ·) (shorten (e :: rest) e) = e :=
    rename_shorten List.mem_cons_self
  rw [hshort] at he
  have hname : nameLead (e :: rest) ++ [] = e.name := congrArg (·.name) he
  have hvalue : e.value = none := congrArg (·.value) he.symm
  have hv : v = 0 := by
    cases hgiven with
    | place => rfl
    | literal ht _ _ => cases hvalue.symm.trans ht
    | name ht _ _ => cases hvalue.symm.trans ht
  refine ⟨[([], 0)], rfl, ?_⟩
  intro m hm
  rw [List.mem_singleton.mp hm, hname, ← hv]
  exact hmem

/-- The members in writing are right exactly when those that are shown are. -/
theorem Legal.readAs_ofText_render_iff (h : Legal items values) :
    ReadAs (fun m => (nameLead items ++ m.1, m.2) ∈ values) (ofText (render items)) ↔
      ReadAs (fun m => (nameLead items ++ m.1, m.2) ∈ values) (shown items) := by
  rcases ofText_render h.isReadable with heq | ⟨hshown, hnone⟩
  · rw [heq]
  · rw [hnone]
    exact iff_of_true readAs_nil (h.readAs_of_nameless hshown)

end Legal

/-! ## Values that are kept -/

/-- An enumeration is written with values that the target language reads as C does, whatever comment
it has. -/
def KeepsValues (name : Text) (items : List Enumerator) (values : Values) : Prop :=
  ∀ comment, ∃ head members,
    (bindEnumeration name items).map (Binding.blocks comment) = .ok [head, members] ∧
      ReadAs (fun m => (nameLead items ++ m.1, m.2) ∈ values) (ofText members)

/-- Members behind one another, in lines. -/
def inLines (members : List Enumerator) : Text :=
  Text.unlines (Text.wrap lineWidth lineIndent
    (List.intercalate ", " (members.map fun e => assigned e.name e.value)))

/-- An enumeration of the library is bound, whatever its members. -/
theorem exists_bindEnumeration {name : Text} (hname : libraryLead <+: name)
    (items : List Enumerator) :
    ∃ head, bindEnumeration name items = .ok (.enumeration head (inLines (shown items))) := by
  obtain ⟨bare, rfl⟩ := hname
  unfold bindEnumeration
  rw [bareName_libraryLead]
  exact ⟨_, rfl⟩

/-- The comment on an enumeration goes behind its head. -/
theorem exists_blocks_bindEnumeration {name : Text} (hname : libraryLead <+: name)
    (items : List Enumerator) : ∃ head, ∀ comment,
      (bindEnumeration name items).map (Binding.blocks comment) =
        .ok [head ++ comment.getD [], inLines (shown items)] := by
  obtain ⟨head, hhead⟩ := exists_bindEnumeration hname items
  refine ⟨head, fun comment => ?_⟩
  rw [hhead]
  rfl

/-- Whether values are kept is seen from the members in writing. -/
theorem keepsValues_iff_ofText {name : Text} (hname : libraryLead <+: name)
    (items : List Enumerator) (values : Values) : KeepsValues name items values ↔
      ReadAs (fun m => (nameLead items ++ m.1, m.2) ∈ values) (ofText (render items)) := by
  obtain ⟨head, hbind⟩ := exists_blocks_bindEnumeration hname items
  constructor
  · intro hkeeps
    obtain ⟨head, members, hblocks, hread⟩ := hkeeps none
    rw [hbind] at hblocks
    cases hblocks
    exact hread
  · intro hread comment
    exact ⟨_, _, hbind comment, hread⟩

/-- The members of an enumeration of the library are written with the values that they have in C,
exactly when their literals are read alike and second names are in step with the members that are
left. -/
theorem keepsValues_iff (name : Text) (items : List Enumerator) (values : Values)
    (hname : libraryLead <+: name) (h : Legal items values) :
    KeepsValues name items values ↔ ReadAlike items ∧ InStep items values := by
  rw [keepsValues_iff_ofText hname, h.readAs_ofText_render_iff, readAs_shown_iff,
    h.readAs_kept_iff]

/-- Members of all kinds; the second name has the value of the member before it. -/
def mixedItems : List Enumerator :=
  [⟨"sfKeyA", none⟩, ⟨"sfKeyB", some "0x10"⟩, ⟨"sfKeyLast", some "sfKeyB"⟩, ⟨"sfKeyC", none⟩]

/-- The values that C gives to members of all kinds. -/
def mixedValues : Values := [("sfKeyA", 0), ("sfKeyB", 16), ("sfKeyLast", 16), ("sfKeyC", 17)]

/-- A member counts on from a second name that is in step. -/
theorem keepsValues_iff_mixedItems : libraryLead <+: Text.ofString "sfKey" ∧
    Legal mixedItems mixedValues ∧ KeepsValues "sfKey" mixedItems mixedValues := by
  have hname : libraryLead <+: Text.ofString "sfKey" := by with_unfolding_all decide
  have hlegal : Legal mixedItems mixedValues :=
    ⟨by with_unfolding_all decide, by with_unfolding_all decide, by with_unfolding_all decide⟩
  have hstep : ReadAlike mixedItems ∧ InStep mixedItems mixedValues := by with_unfolding_all decide
  exact ⟨hname, hlegal, (keepsValues_iff _ _ _ hname hlegal).mpr hstep⟩

/-- Members with an octal literal. -/
def octalItems : List Enumerator := [⟨"sfModeA", some "010"⟩, ⟨"sfModeB", none⟩]

/-- The literal behind a zero is copied, and read as ten instead of eight. -/
theorem not_keepsValues_octalItems : libraryLead <+: Text.ofString "sfMode" ∧
    Legal octalItems [("sfModeA", 8), ("sfModeB", 9)] ∧
      ¬ KeepsValues "sfMode" octalItems [("sfModeA", 8), ("sfModeB", 9)] := by
  have hname : libraryLead <+: Text.ofString "sfMode" := by with_unfolding_all decide
  refine ⟨hname, ⟨by with_unfolding_all decide, by with_unfolding_all decide,
    by with_unfolding_all decide⟩, ?_⟩
  rw [keepsValues_iff_ofText hname]
  with_unfolding_all decide

/-- Members of which the last one counts on from a second name that is out of step. -/
def shiftedItems : List Enumerator :=
  [⟨"sfModeA", none⟩, ⟨"sfModeB", some "10"⟩, ⟨"sfModeC", some "sfModeA"⟩, ⟨"sfModeD", none⟩]

/-- Where the second name is left out, the member behind it counts on from another one. -/
theorem not_keepsValues_shiftedItems :
    Legal shiftedItems [("sfModeA", 0), ("sfModeB", 10), ("sfModeC", 0), ("sfModeD", 1)] ∧
      ¬ KeepsValues "sfMode" shiftedItems
        [("sfModeA", 0), ("sfModeB", 10), ("sfModeC", 0), ("sfModeD", 1)] := by
  refine ⟨⟨by with_unfolding_all decide, by with_unfolding_all decide,
    by with_unfolding_all decide⟩, ?_⟩
  rw [keepsValues_iff_ofText (by with_unfolding_all decide)]
  with_unfolding_all decide

end Enumerator

end Bindery
