import Bindery.Proofs.EnumerationReading

/-!
# The order and the names of members

Members that are all given by number are shown in the order of the numbers, those with one number in
their own order; members of which one has no number are shown as they stand. Whether all have numbers
is seen before second names are left out, so that a second name keeps the others in the order of the
source.

What all names begin with is cut from each of them. Names that differ go on differing, and a name is
cut away altogether exactly when it is itself a beginning of all the others.
-/

namespace Bindery

namespace Enumerator

/-! ## Members in the order of their numbers -/

section Order

variable {items : List Enumerator}

/-- The numbers of members, where they have some, do not descend. -/
def AreAscending (members : List Enumerator) : Prop :=
  members.Pairwise fun a b => ∀ m ∈ a.number?, ∀ n ∈ b.number?, m ≤ n

instance (members : List Enumerator) : Decidable (AreAscending members) :=
  inferInstanceAs (Decidable (members.Pairwise fun a b => ∀ m ∈ a.number?, ∀ n ∈ b.number?, m ≤ n))

/-- A member with a smaller number, or with the same one, comes first. -/
def comesFirst (a b : Enumerator) : Bool := decide (a.number?.getD 0 ≤ b.number?.getD 0)

theorem comesFirst_trans (a b c : Enumerator) :
    comesFirst a b = true → comesFirst b c = true → comesFirst a c = true := by
  simp only [comesFirst, decide_eq_true_eq]
  exact Int.le_trans

theorem comesFirst_total (a b : Enumerator) : (comesFirst a b || comesFirst b a) = true := by
  simp only [comesFirst, Bool.or_eq_true, decide_eq_true_eq]
  exact Int.le_total _ _

theorem mapM_number?_of_forall (h : ∀ e ∈ items, e.number?.isSome = true) :
    items.mapM number? = some (items.map (·.number?.getD 0)) := by
  induction items with
  | nil => rfl
  | cons e items ih =>
    obtain ⟨n, hn⟩ := Option.isSome_iff_exists.mp (h e List.mem_cons_self)
    simp [List.mapM_cons, hn, ih fun e' he' => h e' (List.mem_cons_of_mem e he')]

/-- Members that all have numbers are sorted by them. -/
theorem ordered_of_forall (h : ∀ e ∈ items, e.number?.isSome = true) :
    ordered items = items.mergeSort comesFirst := by
  have hzip : (items.map (·.number?.getD 0)).zip items =
      items.map fun e => (e.number?.getD 0, e) := by
    induction items with
    | nil => rfl
    | cons e items ih => simp [ih fun e' he' => h e' (List.mem_cons_of_mem e he')]
  unfold ordered
  rw [mapM_number?_of_forall h]
  dsimp only
  rw [hzip, List.map_mergeSort (s := comesFirst), List.map_map]
  · exact congrArg (List.mergeSort · comesFirst) (List.map_id items)
  · intro p hp q hq
    obtain ⟨a, -, rfl⟩ := List.mem_map.mp hp
    obtain ⟨b, -, rfl⟩ := List.mem_map.mp hq
    rfl

/-- Members of which one has no number stay as they are. -/
theorem ordered_of_exists (h : ∃ e ∈ items, e.number? = none) : ordered items = items := by
  obtain ⟨e, he, hnone⟩ := h
  unfold ordered
  split
  · next numbers hnumbers =>
    have hread := (Text.length_eq_and_of_mapM_eq_some hnumbers).2 e he
    rw [hnone] at hread
    cases hread
  · rfl

theorem areAscending_ordered (h : ∀ e ∈ items, e.number?.isSome = true) :
    AreAscending (ordered items) := by
  rw [ordered_of_forall h]
  refine (List.pairwise_mergeSort comesFirst_trans comesFirst_total items).imp ?_
  intro a b hab m hm n hn
  rw [comesFirst, decide_eq_true_eq, hm, hn] at hab
  exact hab

/-- Members with one number keep their order. -/
theorem filter_ordered (h : ∀ e ∈ items, e.number?.isSome = true) (n : Int) :
    (ordered items).filter (·.number? == some n) = items.filter (·.number? == some n) := by
  rw [ordered_of_forall h]
  -- The members with the number are sorted, so that sorting keeps them, and no others have it.
  have hsame : (items.filter (·.number? == some n)).Pairwise (comesFirst · ·) := by
    apply List.pairwise_of_forall_mem_list
    intro a ha b hb
    have ha := beq_iff_eq.mp (List.mem_filter.mp ha).2
    have hb := beq_iff_eq.mp (List.mem_filter.mp hb).2
    rw [comesFirst, ha, hb]
    exact decide_eq_true (Int.le_refl n)
  have hkept := List.sublist_mergeSort comesFirst_trans comesFirst_total hsame
    List.filter_sublist
  have hperm := (List.mergeSort_perm items comesFirst).filter (·.number? == some n)
  have hsub := hkept.filter (·.number? == some n)
  rw [List.filter_filter] at hsub
  simp only [Bool.and_self] at hsub
  exact (hsub.eq_of_length hperm.length_eq.symm).symm

/-- The order is the same by other names. -/
theorem ordered_map_rename (f : Text → Text) :
    ordered (items.map (rename f)) = (ordered items).map (rename f) := by
  by_cases h : ∀ e ∈ items, e.number?.isSome = true
  · have hrenamed : ∀ e ∈ items.map (rename f), e.number?.isSome = true :=
      List.forall_mem_map.mpr h
    rw [ordered_of_forall h, ordered_of_forall hrenamed]
    have hsame : ∀ a ∈ items, ∀ b ∈ items,
        comesFirst a b = comesFirst (rename f a) (rename f b) := fun _ _ _ _ => rfl
    exact (List.map_mergeSort hsame).symm
  · have hnone : ∃ e ∈ items, e.number? = none := by simpa using h
    obtain ⟨e, he, hnumber⟩ := hnone
    rw [ordered_of_exists ⟨e, he, hnumber⟩,
      ordered_of_exists ⟨rename f e, List.mem_map_of_mem he, hnumber⟩]

theorem areAscending_map_rename_iff (f : Text → Text) :
    AreAscending (items.map (rename f)) ↔ AreAscending items :=
  List.pairwise_map

/-- The members that are shown are those that are no second names, in their order, without what all
names begin with. -/
theorem shown_eq (items : List Enumerator) :
    shown items = (kept (ordered items)).map (shorten items) :=
  (congrArg kept (ordered_map_rename _)).trans (kept_map_rename _ _)

theorem forall_mem_shown_iff {P : Enumerator → Prop} :
    (∀ m ∈ shown items, P m) ↔ ∀ e ∈ kept items, P (shorten items e) := by
  simp only [(shown_perm items).mem_iff, List.forall_mem_map]

end Order

/-! ## Numbers as the target language reads them -/

theorem trim_eq_self_of_isPlain {t : Text} (h : Text.IsPlain t) : Text.trim t = t := by
  rw [Text.trim, Text.trimStart_of_head fun c hc => (h c (List.mem_of_mem_head? hc)).1,
    Text.trimEnd_of_getLast fun c hc => (h c (List.mem_of_getLast? hc)).1]

/-- A sign is no digit. -/
theorem natural?_cons_sign {base : Nat} {c : Char} (hc : c = '-' ∨ c = '+') (t : Text) :
    Text.natural? base (c :: t) = none := by
  have hdigit : Text.digit? base c = none := by
    rcases hc with rfl | rfl <;> rfl
  simp [Text.natural?, List.mapM_cons, hdigit]

/-- Digits without a sign are read as they are, if what they write fits. -/
theorem signed?_of_natural? {base n : Nat} {t : Text} (h : Text.natural? base t = some n)
    (hn : n < Text.signedLimit) : Text.signed? base t = some (n : Int) := by
  refine Option.filter_eq_some_iff.mpr ⟨?_, ?_⟩
  · split
    · rw [natural?_cons_sign (Or.inl rfl)] at h
      cases h
    · rw [natural?_cons_sign (Or.inr rfl)] at h
      cases h
    · rw [h]
      rfl
  · rw [Text.fitsSigned_iff]
    omega

theorem magnitude?_of_targetMagnitude? {t : Text} {n : Nat} (h : targetMagnitude? t = some n)
    (hn : n < Text.signedLimit) : Text.magnitude? t = some (n : Int) := by
  unfold targetMagnitude? at h
  unfold Text.magnitude?
  cases hmark : Text.hexadecimal? t <;> rw [hmark] at h <;> exact signed?_of_natural? h hn

/-- What the target language reads is read as the same number, but for the smallest one that fits,
whose digits do not fit without their sign. -/
theorem literal?_of_targetLiteral? {t : Text} {n : Int} (h : targetLiteral? t = some n)
    (hn : -(Text.signedLimit : Int) < n) : Text.literal? t = some n := by
  obtain ⟨hvalue, hfits⟩ := Option.filter_eq_some_iff.mp h
  have hbounds := Text.fitsSigned_iff.mp hfits
  split at hvalue
  · next digits =>
    obtain ⟨k, hk, rfl⟩ := Option.map_eq_some_iff.mp hvalue
    have hplain := (isPlain_of_magnitude hk).2
    have hsign : Text.IsPlain ['-'] := by decide
    have htrim : Text.trim ('-' :: digits) = '-' :: digits :=
      trim_eq_self_of_isPlain (hsign.append hplain)
    have hstart : Text.trimStart digits = digits :=
      Text.trimStart_of_head fun c hc => (hplain c (List.mem_of_mem_head? hc)).1
    have hlimit : k < Text.signedLimit := by
      rw [Int.ofNat_eq_natCast] at hn
      omega
    simp only [Text.literal?, htrim, hstart]
    rw [magnitude?_of_targetMagnitude? hk hlimit, Option.map_some]
    exact congrArg some (Text.wrapSigned_of_fitsSigned hfits)
  · next hdigits =>
    obtain ⟨k, hk, rfl⟩ := Option.map_eq_some_iff.mp hvalue
    have htrim := trim_eq_self_of_isPlain (isPlain_of_magnitude hk).2
    have hlimit : k < Text.signedLimit := by
      rw [Int.ofNat_eq_natCast] at hbounds
      omega
    simp only [Text.literal?, htrim]
    exact magnitude?_of_targetMagnitude? hk hlimit

/-! ## Second names among members with numbers -/

/-- A name of the library is no number. -/
theorem literal?_eq_none {t : Text} (h : libraryLead <+: t) : Text.literal? t = none := by
  obtain ⟨behind, rfl⟩ := h
  have hlead : libraryLead ++ behind = ['s'] ++ 'f' :: behind := by
    rw [libraryLead, Text.ofString_eq]
    rfl
  obtain ⟨rest, hrest⟩ : ∃ rest, Text.trim (libraryLead ++ behind) = 's' :: rest := by
    rw [hlead, Text.trim, Text.trimStart_of_head fun c hc => by cases hc; decide]
    exact ⟨_, Text.trimEnd_append fun _ => rfl⟩
  have hhexadecimal : Text.hexadecimal? ('s' :: rest) = none := by
    simp [Text.hexadecimal?, Text.ofString_eq, Text.after?]
  have hdigit : Text.digit? 10 's' = none := by decide
  have hdecimal : Text.natural? 10 ('s' :: rest) = none := by
    simp [Text.natural?, List.mapM_cons, hdigit]
  simp [Text.literal?, hrest, Text.magnitude?, hhexadecimal, Text.signed?, hdecimal]

section SecondNames

variable {items : List Enumerator}

theorem isSecondName_iff {e : Enumerator} :
    e.isSecondName = true ↔ ∃ t ∈ e.value, libraryLead <+: t := by
  have hstarts : ∀ t, Text.startsWith libraryLead t = true ↔ libraryLead <+: t := by
    intro t
    rw [Text.startsWith_iff]
    exact exists_congr fun rest => eq_comm
  simp only [isSecondName, Option.any_eq_true, hstarts, Option.mem_def]

theorem number?_eq_none_of_isSecondName {e : Enumerator} (h : e.isSecondName = true) :
    e.number? = none := by
  obtain ⟨t, ht, hlead⟩ := isSecondName_iff.mp h
  rw [number?, ht, Option.bind_some]
  exact literal?_eq_none hlead

theorem kept_eq_self (h : ∀ e ∈ items, e.isSecondName = false) : kept items = items := by
  apply List.filter_eq_self.mpr
  intro e he
  rw [h e he]
  rfl

/-- Members that all have numbers are no second names. -/
theorem kept_ordered_of_forall (h : ∀ e ∈ items, e.number?.isSome = true) :
    kept (ordered items) = ordered items := by
  apply kept_eq_self
  intro e he
  rw [Bool.eq_false_iff]
  intro hsecond
  have hnumber := h e ((ordered_perm_and items).1.mem_iff.mp he)
  rw [number?_eq_none_of_isSecondName hsecond] at hnumber
  cases hnumber

/-- A second name keeps the others in their order. -/
theorem shown_of_exists_isSecondName (h : ∃ e ∈ items, e.isSecondName = true) :
    shown items = (kept items).map (shorten items) := by
  obtain ⟨e, he, hsecond⟩ := h
  rw [shown_eq, ordered_of_exists ⟨e, he, number?_eq_none_of_isSecondName hsecond⟩]

/-- Members are shown in the order of their numbers, unless a second name keeps them in an order of
their own that descends. -/
theorem areAscending_shown_iff (h : ∀ m ∈ shown items, m.number?.isSome = true) :
    AreAscending (shown items) ↔
      (∀ e ∈ items, e.isSecondName = false) ∨ AreAscending (kept items) := by
  by_cases hfirst : ∀ e ∈ items, e.isSecondName = false
  · have hnumbers : ∀ e ∈ items, e.number?.isSome = true := by
      rw [forall_mem_shown_iff, kept_eq_self hfirst] at h
      exact h
    refine iff_of_true ?_ (Or.inl hfirst)
    rw [shown_eq]
    exact (areAscending_map_rename_iff _).mpr ((areAscending_ordered hnumbers).filter _)
  · have hsecond : ∃ e ∈ items, e.isSecondName = true := by simpa using hfirst
    rw [or_iff_right hfirst, shown_of_exists_isSecondName hsecond]
    exact areAscending_map_rename_iff _

end SecondNames

/-! ## Enumerations that are bound -/

/-- An enumeration is bound with the members that are shown, if its name is the library's. -/
theorem exists_bindEnumeration_eq {name : Text} {items : List Enumerator} {binding : Binding}
    (h : bindEnumeration name items = .ok binding) :
    ∃ head, binding = .enumeration head (inLines (shown items)) := by
  unfold bindEnumeration at h
  cases hbare : bareName name with
  | error fault =>
    rw [hbare] at h
    cases h
  | ok bare =>
    rw [hbare] at h
    cases h
    exact ⟨_, rfl⟩

/-- An enumeration whose members all have numbers shows them in ascending order if no member is a
second name, and otherwise in their own order, which may descend. -/
theorem bindEnumeration_ascending_iff {name : Text} {items : List Enumerator} {binding : Binding}
    (hbinding : bindEnumeration name items = .ok binding)
    (hnumbers : ∀ m ∈ shown items, m.number?.isSome = true) :
    (∃ head, binding = .enumeration head (inLines (shown items))) ∧
      ((∀ e ∈ items, e.isSecondName = false) → AreAscending (shown items)) ∧
      ((∃ e ∈ items, e.isSecondName = true) →
        shown items = (kept items).map (shorten items)) ∧
      (AreAscending (shown items) ↔
        (∀ e ∈ items, e.isSecondName = false) ∨ AreAscending (kept items)) :=
  ⟨exists_bindEnumeration_eq hbinding,
    fun hfirst => (areAscending_shown_iff hnumbers).mpr (Or.inl hfirst),
    shown_of_exists_isSecondName, areAscending_shown_iff hnumbers⟩

/-- Members with numbers, out of their order. -/
def factorItems : List Enumerator :=
  [⟨"sfBlendFactorOne", some "1"⟩, ⟨"sfBlendFactorZero", some "0"⟩,
    ⟨"sfBlendFactorSrcColor", some "0x2"⟩]

/-- Members of an enumeration without second names come in the order of their numbers. -/
theorem bindEnumeration_ascending_factorItems :
    bindEnumeration "sfBlendFactor" factorItems = .ok (.enumeration
      "type BlendFactor* \x7b.pure, size: sizeof(cint).\x7d = enum" (render factorItems)) ∧
    (∀ m ∈ shown factorItems, m.number?.isSome = true) ∧ AreAscending (shown factorItems) := by
  have hbinding : bindEnumeration "sfBlendFactor" factorItems = .ok (.enumeration
      "type BlendFactor* \x7b.pure, size: sizeof(cint).\x7d = enum" (render factorItems)) := by
    with_unfolding_all rfl
  have hnumbers : ∀ m ∈ shown factorItems, m.number?.isSome = true := by
    rw [forall_mem_shown_iff]
    with_unfolding_all decide
  have hfirst : ∀ e ∈ factorItems, e.isSecondName = false := by with_unfolding_all decide
  exact ⟨hbinding, hnumbers, (bindEnumeration_ascending_iff hbinding hnumbers).2.1 hfirst⟩

/-- Members with numbers and a second name of one of them. -/
def aliasedItems : List Enumerator :=
  [⟨"sfKeyTilde", some "54"⟩, ⟨"sfKeyEscape", some "36"⟩, ⟨"sfKeyTilda", some "sfKeyTilde"⟩]

/-- The second name is left out, but keeps the others in an order in which their numbers descend. -/
theorem not_areAscending_aliasedItems :
    bindEnumeration "sfKeyCode" aliasedItems = .ok (.enumeration
      "type KeyCode* \x7b.pure, size: sizeof(cint).\x7d = enum" "  Tilde = 54, Escape = 36") ∧
    (∀ m ∈ shown aliasedItems, m.number?.isSome = true) ∧ ¬ AreAscending (shown aliasedItems) := by
  refine ⟨by with_unfolding_all rfl, by with_unfolding_all decide, ?_⟩
  with_unfolding_all decide

/-! ## Names of members -/

section Names

variable {items : List Enumerator}

/-- Names that differ go on differing without what all begin with. -/
theorem nodup_names_shown (h : (items.map (·.name)).Nodup) :
    ((shown items).map (·.name)).Nodup := by
  apply List.Nodup.of_map (nameLead items ++ ·)
  have hnames : ((kept items).map (shorten items)).map (nameLead items ++ ·.name) =
      (kept items).map (·.name) := by
    rw [List.map_map]
    exact List.map_congr_left fun e he => congrArg (·.name) (rename_shorten (kept_subset he))
  rw [List.map_map]
  refine (((shown_perm items).map _).nodup_iff).mpr ?_
  exact hnames ▸ h.sublist (List.filter_sublist.map _)

/-- A name is cut away altogether if all names begin with it. -/
theorem name_shorten_eq_nil_iff {e : Enumerator} (he : e ∈ items) :
    (shorten items e).name = [] ↔ ∀ e' ∈ items, e.name <+: e'.name := by
  have hmem : e.name ∈ items.map (·.name) := List.mem_map_of_mem he
  have hlead := Text.eq_commonLeadOf_iff hmem
  rw [List.forall_mem_map] at hlead
  have hwhole : nameLead items ++ (shorten items e).name = e.name :=
    congrArg (·.name) (rename_shorten he)
  rw [← hlead]
  constructor
  · intro hnil
    rw [← hwhole, hnil, List.append_nil]
    rfl
  · intro heq
    have hcut : nameLead items ++ (shorten items e).name = nameLead items ++ [] := by
      rw [hwhole, heq, List.append_nil]
      rfl
    exact List.append_cancel_left hcut

/-- A member that is shown is nameless exactly if it is no second name and all names begin with its
name. -/
theorem forall_name_shown_ne_nil_iff : (∀ m ∈ shown items, m.name ≠ []) ↔
    ∀ e ∈ items, e.isSecondName = false → ∃ e' ∈ items, ¬ e.name <+: e'.name := by
  rw [forall_mem_shown_iff]
  constructor
  · intro h e he hfirst
    have hne := h e (mem_kept_iff.mpr ⟨he, hfirst⟩)
    rw [Ne, name_shorten_eq_nil_iff he] at hne
    simpa using hne
  · intro h e hkept hnil
    obtain ⟨he, hfirst⟩ := mem_kept_iff.mp hkept
    obtain ⟨e', he', hnot⟩ := h e he hfirst
    exact hnot ((name_shorten_eq_nil_iff he).mp hnil e' he')

/-- An enumeration is bound, and all its members that are shown have names, different ones. -/
def NamesMembers (name : Text) (items : List Enumerator) : Prop :=
  ∃ head, bindEnumeration name items = .ok (.enumeration head (inLines (shown items))) ∧
    (∀ m ∈ shown items, m.name ≠ []) ∧ ((shown items).map (·.name)).Nodup

theorem namesMembers_iff_shown {name : Text} (hname : libraryLead <+: name) :
    NamesMembers name items ↔
      (∀ m ∈ shown items, m.name ≠ []) ∧ ((shown items).map (·.name)).Nodup := by
  obtain ⟨head, hhead⟩ := exists_bindEnumeration hname items
  exact ⟨fun ⟨_, _, h⟩ => h, fun h => ⟨head, hhead, h⟩⟩

/-- Members of an enumeration with different names are shown with different names, and with names at
all exactly if no member that is shown has a name that all names begin with. -/
theorem namesMembers_iff {name : Text} {items : List Enumerator} (hname : libraryLead <+: name)
    (hdistinct : (items.map (·.name)).Nodup) :
    ((shown items).map (·.name)).Nodup ∧ (NamesMembers name items ↔
      ∀ e ∈ items, e.isSecondName = false → ∃ e' ∈ items, ¬ e.name <+: e'.name) := by
  have hnodup := nodup_names_shown hdistinct
  refine ⟨hnodup, ?_⟩
  rw [namesMembers_iff_shown hname, and_iff_left hnodup, forall_name_shown_ne_nil_iff]

/-- Members of which only a second name is a beginning of the other names. -/
def styleItems : List Enumerator :=
  [⟨"sfStyleTitlebar", none⟩, ⟨"sfStyleResize", none⟩, ⟨"sfStyle", some "sfStyleResize"⟩]

/-- A second name that all names begin with takes away no name. -/
theorem namesMembers_styleItems : libraryLead <+: Text.ofString "sfStyle" ∧
    (styleItems.map (·.name)).Nodup ∧ NamesMembers "sfStyle" styleItems := by
  have hname : libraryLead <+: Text.ofString "sfStyle" := by with_unfolding_all decide
  have hdistinct : (styleItems.map (·.name)).Nodup := by with_unfolding_all decide
  refine ⟨hname, hdistinct, (namesMembers_iff hname hdistinct).2.mpr ?_⟩
  with_unfolding_all decide

/-- A single member is shown without its name, and so is one whose name the others begin with. -/
theorem not_namesMembers_nameless : libraryLead <+: Text.ofString "sfMode" ∧
    ∀ items ∈ ([[⟨"sfModeFull", none⟩], [⟨"sfModeFull", none⟩, ⟨"sfModeFullscreen", none⟩]] :
        List (List Enumerator)),
      (∀ e ∈ items, e.name ≠ []) ∧ (items.map (·.name)).Nodup ∧
        ¬ NamesMembers "sfMode" items := by
  have hname : libraryLead <+: Text.ofString "sfMode" := by with_unfolding_all decide
  simp only [namesMembers_iff_shown hname]
  with_unfolding_all decide

end Names

end Enumerator

end Bindery
