import Bindery.Proofs.Corpus
import Bindery.Proofs.MemberOrder

/-!
# Members found again in the lines of an enumeration

Members are written behind one another with a comma and a space in between, and the words of this text
are filled into lines. Where names and values have no commas, and blanks only as single spaces in
values, the lines give the text back, and the text its members: one for each enumerator that is no
second name, with what all names begin with cut from its name and with its value unchanged.
-/

namespace Bindery

namespace Text

section Comma

variable {ts : List Text}

/-- Texts without commas are set apart by the commas between them. -/
theorem onlyAtJoints_comma (hne : ts ≠ []) (h : ∀ t ∈ ts, ',' ∉ t) : OnlyAtJoints [',', ' '] ts := by
  induction ts with
  | nil => exact absurd rfl hne
  | cons t ts ih =>
    have ht : ',' ∉ t := h t List.mem_cons_self
    by_cases hts : ts = []
    · subst hts
      apply OnlyAtJoints.last
      intro hfound
      exact ht (hfound.subset List.mem_cons_self)
    · apply OnlyAtJoints.joint
      · rw [foundBehind_iff]
        rintro n hn ⟨after, hafter⟩
        rw [List.drop_append_of_le_length hn.le, List.drop_eq_getElem_cons hn] at hafter
        have hcomma : ',' = t[n] := (List.cons.inj hafter).1
        exact ht (hcomma ▸ List.getElem_mem hn)
      · exact ih hts fun u hu => h u (List.mem_cons_of_mem t hu)

/-- Normal texts behind one another, with commas and spaces in between, are a normal text. -/
theorem isNormal_joined_comma (hne : ts ≠ []) (h : ∀ t ∈ ts, IsNormal t) :
    IsNormal (joined [',', ' '] ts) := by
  induction ts with
  | nil => exact absurd rfl hne
  | cons t ts ih =>
    have ht := h t List.mem_cons_self
    by_cases hts : ts = []
    · subst hts
      simpa using ht
    · have hrest := ih hts fun u hu => h u (List.mem_cons_of_mem t hu)
      have hjoined := (ht.concat (c := ',') (by decide)).append_space hrest
      rw [joined_cons _ _ hts]
      simpa using hjoined

end Comma

end Text

namespace Enumerator

/-- Members whose names and values can be told apart from what is written between them. -/
structure AreSeparable (items : List Enumerator) : Prop where
  /-- Names have no blanks and no commas. -/
  names : ∀ e ∈ items, ∀ c ∈ e.name, Text.isBlank c = false ∧ c ≠ ','
  /-- Values are not empty, and have no commas and no blanks but single spaces inside. -/
  values : ∀ e ∈ items, ∀ v ∈ e.value, Text.IsNormal v ∧ ',' ∉ v
  /-- No name is what all names begin with. -/
  proper : ∀ e ∈ items, ∃ e' ∈ items, ¬ e.name <+: e'.name
  /-- Some member is no second name. -/
  shows : ∃ e ∈ items, ∀ v ∈ e.value, ¬ libraryLead <+: v

/-- Some lines give back the members of an enumeration, from whose names `lead` is cut, in some
order. -/
structure GivesBack (items : List Enumerator) (lines lead : Text) (order : List Enumerator) :
    Prop where
  /-- The longest text that all names begin with is cut. -/
  isLongestLead : Text.IsLongestLead lead (items.map (·.name))
  /-- Every enumerator but the second names has one place in the order. -/
  perm : order.Perm (kept items)
  /-- The lines say the members in this order, each with its value if it has one. -/
  pieces : Text.pieces ", " (Text.normalize lines) =
    order.map fun e => assigned (e.name.drop lead.length) e.value
  /-- If all have numbers, they ascend. -/
  ascending : (∀ e ∈ items, e.number?.isSome = true) → AreAscending order
  /-- If all have numbers, members with one number are in their own order. -/
  stable : (∀ e ∈ items, e.number?.isSome = true) →
    ∀ n, order.filter (·.number? == some n) = items.filter (·.number? == some n)
  /-- If one has no number, all are in their own order. -/
  unsorted : (∃ e ∈ items, e.number? = none) → order = kept items
  /-- The numbers are those that the target language reads, but for the smallest of 64 bits. -/
  numbers : ∀ e ∈ items, ∀ t ∈ e.value, ∀ n ∈ targetLiteral? t,
    -(Text.signedLimit : Int) < n → e.number? = some n

section Separable

variable {items : List Enumerator} {e : Enumerator}

/-- What is left of a name is not empty. -/
theorem AreSeparable.name_shorten_ne_nil (h : AreSeparable items) (he : e ∈ items) :
    (shorten items e).name ≠ [] := by
  rw [Ne, name_shorten_eq_nil_iff he]
  obtain ⟨e', he', hnot⟩ := h.proper e he
  exact fun hall => hnot (hall e' he')

theorem AreSeparable.mem_name_shorten (h : AreSeparable items) (he : e ∈ items) {c : Char}
    (hc : c ∈ (shorten items e).name) : Text.isBlank c = false ∧ c ≠ ',' :=
  h.names e he c (List.mem_of_mem_drop hc)

/-- A member in writing is a normal text. -/
theorem AreSeparable.isNormal_assigned (h : AreSeparable items) (he : e ∈ items) :
    Text.IsNormal (assigned (shorten items e).name e.value) := by
  have hname : Text.IsNormal (shorten items e).name :=
    Text.isNormal_of_forall (h.name_shorten_ne_nil he) fun c hc => (h.mem_name_shorten he hc).1
  cases hvalue : e.value with
  | none => exact hname
  | some v =>
    have hsign : Text.IsNormal ['='] :=
      Text.isNormal_of_forall (List.cons_ne_nil _ _) (by decide)
    have hall := hname.append_space (hsign.append_space (h.values e he v hvalue).1)
    have hmark : Text.ofString " = " = [' ', '=', ' '] := by
      rw [Text.ofString_eq]
      rfl
    rw [assigned, hmark]
    simpa using hall

/-- A member in writing has no comma. -/
theorem AreSeparable.comma_not_mem_assigned (h : AreSeparable items) (he : e ∈ items) :
    ',' ∉ assigned (shorten items e).name e.value := by
  have hname : ',' ∉ (shorten items e).name := fun hc => (h.mem_name_shorten he hc).2 rfl
  cases hvalue : e.value with
  | none => exact hname
  | some v =>
    have hmark : ',' ∉ Text.ofString " = " := by
      rw [Text.ofString_eq]
      decide
    rw [assigned, List.mem_append, List.mem_append]
    rintro ((hc | hc) | hc)
    · exact hname hc
    · exact hmark hc
    · exact (h.values e he v hvalue).2 hc

/-- Members that are told apart are found again in their lines. -/
theorem pieces_inLines {members : List Enumerator} (hne : members ≠ [])
    (hnormal : ∀ m ∈ members, Text.IsNormal (assigned m.name m.value))
    (hcomma : ∀ m ∈ members, ',' ∉ assigned m.name m.value) :
    Text.pieces ", " (Text.normalize (inLines members)) =
      members.map fun m => assigned m.name m.value := by
  have hsign : Text.ofString ", " = [',', ' '] := by
    rw [Text.ofString_eq]
    rfl
  have hnonempty : members.map (fun m => assigned m.name m.value) ≠ [] := by
    simpa using hne
  rw [inLines, Text.normalize_unlines_wrap (by with_unfolding_all decide), hsign]
  have hjoined := Text.isNormal_joined_comma hnonempty (List.forall_mem_map.mpr hnormal)
  rw [← Text.joined, hjoined.normalize_eq]
  exact Text.pieces_joined (List.cons_ne_nil _ _)
    (Text.onlyAtJoints_comma hnonempty (List.forall_mem_map.mpr hcomma))

/-- The members that are shown in lines are found again. -/
theorem AreSeparable.pieces_shown (h : AreSeparable items) :
    Text.pieces ", " (Text.normalize (inLines (shown items))) =
      (kept (ordered items)).map fun e =>
        assigned (e.name.drop (nameLead items).length) e.value := by
  have hmember : ∀ m ∈ shown items, ∃ e ∈ items, shorten items e = m := by
    intro m hm
    obtain ⟨e, he, hshort⟩ := List.mem_map.mp ((shown_perm items).mem_iff.mp hm)
    exact ⟨e, kept_subset he, hshort⟩
  have hne : shown items ≠ [] := by
    obtain ⟨e, he, hvalue⟩ := h.shows
    have hkept : e ∈ kept items := by
      refine mem_kept_iff.mpr ⟨he, ?_⟩
      rw [Bool.eq_false_iff, Ne, isSecondName_iff]
      rintro ⟨v, hv, hlead⟩
      exact hvalue v hv hlead
    exact List.ne_nil_of_mem ((shown_perm items).mem_iff.mpr (List.mem_map_of_mem hkept))
  rw [pieces_inLines hne, shown_eq, List.map_map]
  · rfl
  · intro m hm
    obtain ⟨e, he, rfl⟩ := hmember m hm
    exact h.isNormal_assigned he
  · intro m hm
    obtain ⟨e, he, rfl⟩ := hmember m hm
    exact h.comma_not_mem_assigned he

theorem AreSeparable.givesBack (h : AreSeparable items) :
    GivesBack items (inLines (shown items)) (nameLead items) (kept (ordered items)) where
  isLongestLead := by
    obtain ⟨e, he, -⟩ := h.shows
    exact Text.isLongestLead_commonLeadOf (List.ne_nil_of_mem (List.mem_map_of_mem he))
  perm := (ordered_perm_and items).1.filter _
  pieces := h.pieces_shown
  ascending := fun hnumbers => (areAscending_ordered hnumbers).filter _
  stable := fun hnumbers n => by rw [kept_ordered_of_forall hnumbers, filter_ordered hnumbers]
  unsorted := fun hnone => by rw [ordered_of_exists hnone]
  numbers := by
    intro e _ t ht n hn hlimit
    rw [number?, ht, Option.bind_some]
    exact literal?_of_targetLiteral? hn hlimit

end Separable

/-- The lines of an enumeration give back its members, whatever comment it has: one for each
enumerator that is no second name, by its name without what all names begin with, and with its
value. -/
theorem exists_givesBack {name : Text} {items : List Enumerator} (hname : libraryLead <+: name)
    (h : AreSeparable items) : ∃ head lines lead order,
      (∀ comment, (bindEnumeration name items).map (Binding.blocks comment) =
        .ok [head ++ comment.getD [], lines]) ∧ GivesBack items lines lead order := by
  obtain ⟨head, hblocks⟩ := exists_blocks_bindEnumeration hname items
  exact ⟨head, inLines (shown items), nameLead items, kept (ordered items), hblocks, h.givesBack⟩

/-- Members of all kinds, one of them with blanks in its value. -/
def flagItems : List Enumerator :=
  [⟨"sfFlagWide", some "1 << 3"⟩, ⟨"sfFlagNone", some "0"⟩, ⟨"sfFlagNext", none⟩,
    ⟨"sfFlagDefault", some "sfFlagNone"⟩]

/-- Members of all kinds are given back. -/
theorem exists_givesBack_flagItems : libraryLead <+: Text.ofString "sfFlag" ∧
    AreSeparable flagItems ∧ ∃ head lines lead order,
      (∀ comment, (bindEnumeration "sfFlag" flagItems).map (Binding.blocks comment) =
        .ok [head ++ comment.getD [], lines]) ∧ GivesBack flagItems lines lead order := by
  have hname : libraryLead <+: Text.ofString "sfFlag" := by with_unfolding_all decide
  have hseparable : AreSeparable flagItems :=
    ⟨by with_unfolding_all decide, by with_unfolding_all decide, by with_unfolding_all decide,
      by with_unfolding_all decide⟩
  exact ⟨hname, hseparable, exists_givesBack hname hseparable⟩

end Enumerator

end Bindery
