import Bindery.Binding.Enumeration
import Bindery.Proofs.CommonLead
import Bindery.Proofs.SourcePosition

/-!
# Cutting at the end of a common beginning

A common beginning can be found as a place among bytes: each text is compared with the first one,
and the least place at which one of them parts from it is kept. Texts part between characters, so
each of them can be cut at that place. What is cut off is the longest common beginning, and with it
the rest is the whole text again.
-/

namespace Bindery

namespace Text

/-! ## Places between characters -/

/-- A place among the bytes of a text that is not inside a character: the text ends there, or the
next character begins. -/
def IsBoundary (t : Text) (n : Nat) : Prop :=
  n = (bytes t).length ∨ ∃ b, (bytes t)[n]? = some b ∧ b.IsUTF8FirstByte

theorem bytes_cons (c : Char) (t : Text) : bytes (c :: t) = String.utf8EncodeChar c ++ bytes t :=
  List.flatMap_cons

section Boundary

variable {c : Char} {t lead rest : Text} {n : Nat}

/-- The bytes of a character at the front come before all others. -/
theorem getElem?_bytes_cons_of_lt (hn : n < c.utf8Size) :
    (bytes (c :: t))[n]? = (String.utf8EncodeChar c)[n]? := by
  rw [bytes_cons, List.getElem?_append_left (by rwa [String.length_utf8EncodeChar])]

theorem isBoundary_zero (t : Text) : IsBoundary t 0 := by
  cases t with
  | nil => exact Or.inl rfl
  | cons c t =>
    have hpos : 0 < (String.utf8EncodeChar c).length := by
      rw [String.length_utf8EncodeChar]
      exact c.utf8Size_pos
    refine Or.inr ⟨(String.utf8EncodeChar c)[0], ?_,
      UInt8.isUTF8FirstByte_getElem_utf8EncodeChar.mpr rfl⟩
    rw [getElem?_bytes_cons_of_lt c.utf8Size_pos, List.getElem?_eq_getElem hpos]

/-- No place inside a character is a boundary. -/
theorem not_isBoundary_of_lt (hpos : 0 < n) (hn : n < c.utf8Size) : ¬ IsBoundary (c :: t) n := by
  rintro (hend | ⟨b, hb, hfirst⟩)
  · rw [length_bytes, byteSize_cons] at hend
    omega
  · rw [getElem?_bytes_cons_of_lt hn] at hb
    obtain ⟨hlt, rfl⟩ := List.getElem?_eq_some_iff.mp hb
    exact hpos.ne' (UInt8.isUTF8FirstByte_getElem_utf8EncodeChar.mp hfirst)

/-- Behind a character the boundaries are those of the text behind it. -/
theorem isBoundary_cons_add_iff : IsBoundary (c :: t) (c.utf8Size + n) ↔ IsBoundary t n := by
  have hsize : (String.utf8EncodeChar c).length = c.utf8Size := String.length_utf8EncodeChar c
  have hget : (bytes (c :: t))[c.utf8Size + n]? = (bytes t)[n]? := by
    rw [bytes_cons, ← hsize, List.getElem?_append_right (Nat.le_add_right _ _),
      Nat.add_sub_cancel_left]
  rw [IsBoundary, hget, bytes_cons, List.length_append, hsize, Nat.add_left_cancel_iff, IsBoundary]

/-! ## Cutting -/

/-- The two parts of a text at a place among its bytes; nothing if the place is inside a character
or behind the end. -/
def cutBytes? : Nat → Text → Option (Text × Text)
  | 0, t => some ([], t)
  | _ + 1, [] => none
  | n + 1, c :: t =>
    if c.utf8Size ≤ n + 1 then
      (cutBytes? (n + 1 - c.utf8Size) t).map fun p => (c :: p.1, p.2)
    else none

theorem byteSize_eq_zero_iff : byteSize t = 0 ↔ t = [] := by
  cases t with
  | nil => simp
  | cons c t =>
    have hpos := c.utf8Size_pos
    simp only [byteSize_cons, reduceCtorEq, iff_false]
    omega

/-- The parts of a text at a place make up the text, and the first one ends there. -/
theorem cutBytes?_eq_some_iff :
    cutBytes? n t = some (lead, rest) ↔ t = lead ++ rest ∧ byteSize lead = n := by
  induction t generalizing n lead with
  | nil =>
    cases n with
    | zero => cases lead <;> simp [cutBytes?, eq_comm]
    | succ n =>
      simp only [cutBytes?, reduceCtorEq, false_iff, not_and]
      intro hnil
      rw [(List.append_eq_nil_iff.mp hnil.symm).1, byteSize_nil]
      exact (Nat.succ_ne_zero n).symm
  | cons c t ih =>
    cases n with
    | zero =>
      rw [cutBytes?, byteSize_eq_zero_iff, Option.some.injEq, Prod.mk.injEq]
      constructor
      · rintro ⟨rfl, rfl⟩
        exact ⟨rfl, rfl⟩
      · rintro ⟨hwhole, rfl⟩
        exact ⟨rfl, hwhole⟩
    | succ n =>
      cases lead with
      | nil => simp [cutBytes?]
      | cons d lead =>
        simp only [cutBytes?, Option.ite_none_right_eq_some, Option.map_eq_some_iff, Prod.mk.injEq,
          Prod.exists, List.cons_append, List.cons.injEq, byteSize_cons]
        constructor
        · rintro ⟨hle, front, behind, hcut, ⟨rfl, rfl⟩, rfl⟩
          obtain ⟨hwhole, hsize⟩ := ih.mp hcut
          exact ⟨⟨rfl, hwhole⟩, by omega⟩
        · rintro ⟨⟨rfl, hwhole⟩, hsize⟩
          exact ⟨by omega, lead, rest, ih.mpr ⟨hwhole, by omega⟩, ⟨rfl, rfl⟩, rfl⟩

/-- A text can be cut at the boundaries between its characters and nowhere else. -/
theorem isSome_cutBytes?_iff : (cutBytes? n t).isSome = true ↔ IsBoundary t n := by
  induction t generalizing n with
  | nil =>
    cases n with
    | zero => exact iff_of_true rfl (isBoundary_zero [])
    | succ n => simp [cutBytes?, IsBoundary, bytes]
  | cons c t ih =>
    cases n with
    | zero => exact iff_of_true rfl (isBoundary_zero (c :: t))
    | succ n =>
      rw [cutBytes?]
      by_cases hle : c.utf8Size ≤ n + 1
      · obtain ⟨k, hk⟩ := Nat.exists_eq_add_of_le hle
        rw [if_pos hle, Option.isSome_map, hk, Nat.add_sub_cancel_left, ih, isBoundary_cons_add_iff]
      · rw [if_neg hle]
        exact iff_of_false Bool.false_ne_true
          (not_isBoundary_of_lt n.succ_pos (Nat.lt_of_not_le hle))

end Boundary

/-! ## Where texts part -/

/-- The characters of a text with the places among the bytes at which they begin. -/
def charPlaces (place : Nat) : Text → List (Nat × Char)
  | [] => []
  | c :: t => (place, c) :: charPlaces (place + c.utf8Size) t

/-- Where a text parts from the first one, if both begin at a place: behind the last of the
characters at the front that are the same in both. -/
def partingFrom (place : Nat) (first t : Text) : Nat :=
  ((((charPlaces place first).zip t).takeWhile fun p => p.1.2 == p.2).getLast?.map fun p =>
    p.1.1 + p.1.2.utf8Size).getD place

/-- The least place at which some texts part from the first of them. -/
def leadEnd : List Text → Nat
  | [] => 0
  | first :: ts => ts.foldl (fun stop t => min (partingFrom 0 first t) stop) (byteSize first)

/-- Texts part behind their common beginning. -/
theorem partingFrom_eq (place : Nat) (first t : Text) :
    partingFrom place first t = place + byteSize (commonLead first t) := by
  unfold partingFrom
  induction first generalizing place t with
  | nil => simp [charPlaces, commonLead]
  | cons c first ih =>
    cases t with
    | nil => simp [charPlaces, commonLead]
    | cons d t =>
      rw [charPlaces, List.zip_cons_cons, List.takeWhile_cons]
      by_cases hcd : c = d
      · -- Where nothing behind the character is the same, the texts part behind it.
        rw [if_pos (beq_iff_eq.mpr hcd), List.getLast?_cons, commonLead, if_pos hcd, byteSize_cons,
          ← Nat.add_assoc, ← ih (place + c.utf8Size) t, Option.map_some, Option.getD_some]
        cases List.getLast? _ <;> rfl
      · rw [if_neg (mt beq_iff_eq.mp hcd), commonLead, if_neg hcd]
        rfl

theorem byteSize_le_of_isPrefix {s t : Text} (h : s <+: t) : byteSize s ≤ byteSize t := by
  obtain ⟨rest, rfl⟩ := h
  rw [byteSize_append]
  exact Nat.le_add_right _ _

/-- What a text has in common with a beginning of another one ends where the beginning does, or
where the texts part. -/
theorem byteSize_commonLead_of_isPrefix {lead first : Text} (h : lead <+: first) (t : Text) :
    byteSize (commonLead lead t) = min (byteSize (commonLead first t)) (byteSize lead) := by
  obtain ⟨hfirst, ht⟩ := prefix_commonLead_iff.mp (List.prefix_refl (commonLead first t))
  rcases List.prefix_or_prefix_of_prefix h hfirst with hle | hle
  · -- The texts are the same up to the end of the beginning.
    have hlead : lead <+: commonLead lead t :=
      prefix_commonLead_iff.mpr ⟨List.prefix_rfl, hle.trans ht⟩
    rw [Nat.min_eq_right (byteSize_le_of_isPrefix hle),
      ← hlead.eq_of_length_le (commonLead_prefix_left lead t).length_le]
  · -- The texts part before the end of the beginning.
    have hshort : commonLead first t <+: commonLead lead t :=
      prefix_commonLead_iff.mpr ⟨hle, ht⟩
    have hlong : commonLead lead t <+: commonLead first t :=
      prefix_commonLead_iff.mpr ((prefix_commonLead_iff.mp List.prefix_rfl).imp_left (·.trans h))
    rw [Nat.min_eq_left (byteSize_le_of_isPrefix hle), hshort.eq_of_length_le hlong.length_le]

/-- The least place belongs to what all texts so far have in common. -/
theorem foldl_min_partingFrom {lead first : Text} (h : lead <+: first) (ts : List Text) :
    ts.foldl (fun stop t => min (partingFrom 0 first t) stop) (byteSize lead) =
      byteSize (ts.foldl commonLead lead) := by
  induction ts generalizing lead with
  | nil => rfl
  | cons t ts ih =>
    rw [List.foldl_cons, List.foldl_cons, partingFrom_eq, Nat.zero_add,
      ← byteSize_commonLead_of_isPrefix h]
    exact ih ((commonLead_prefix_left lead t).trans h)

/-- The common beginning ends at the least place at which texts part from the first one. -/
theorem byteSize_commonLeadOf (ts : List Text) : byteSize (commonLeadOf ts) = leadEnd ts := by
  cases ts with
  | nil => rfl
  | cons first ts => exact (foldl_min_partingFrom List.prefix_rfl ts).symm

/-! ## The longest common beginning -/

/-- Only one text is the longest common beginning of some texts. -/
theorem IsLongestLead.unique {lead lead' : Text} {ts : List Text} (h : IsLongestLead lead ts)
    (h' : IsLongestLead lead' ts) : lead = lead' :=
  (h'.longest lead h.lead_of).eq_of_length_le (h.longest lead' h'.lead_of).length_le

/-- The order of the texts does not matter. -/
theorem commonLeadOf_perm {ts us : List Text} (h : us.Perm ts) :
    commonLeadOf us = commonLeadOf ts := by
  rcases eq_or_ne ts [] with rfl | hne
  · rw [h.eq_nil]
  · have hus : us ≠ [] := fun hnil => hne (hnil ▸ h).nil_eq.symm
    obtain ⟨hlead, hlongest⟩ := isLongestLead_commonLeadOf hus
    refine IsLongestLead.unique ⟨fun t ht => hlead t (h.mem_iff.mpr ht), ?_⟩
      (isLongestLead_commonLeadOf hne)
    exact fun other hother => hlongest other fun t ht => hother t (h.mem_iff.mp ht)

/-- Each of some texts can be cut behind what all of them begin with. -/
theorem exists_cutBytes?_commonLeadOf {ts : List Text} {t : Text} (h : t ∈ ts) :
    ∃ rest, cutBytes? (byteSize (commonLeadOf ts)) t = some (commonLeadOf ts, rest) ∧
      commonLeadOf ts ++ rest = t := by
  obtain ⟨rest, hrest⟩ := commonLeadOf_prefix_of_mem h
  exact ⟨rest, cutBytes?_eq_some_iff.mpr ⟨hrest.symm, rfl⟩, hrest⟩

/-- Members lose what is cut off their names. -/
theorem map_cutBytes?_eq (items : List Enumerator) :
    items.map (fun e => cutBytes? (byteSize (commonLeadOf (items.map (·.name)))) e.name) =
      (Enumerator.withoutLead items).map
        fun m => some (commonLeadOf (items.map (·.name)), m.name) := by
  rw [Enumerator.withoutLead, List.map_map]
  refine List.map_congr_left fun e he => ?_
  have hmem : e.name ∈ items.map (·.name) := List.mem_map_of_mem he
  obtain ⟨rest, hcut, hwhole⟩ := exists_cutBytes?_commonLeadOf hmem
  have hrest : e.name.drop (commonLeadOf (items.map (·.name))).length = rest := by
    rw [← hwhole, List.drop_left]
  rw [hcut, Function.comp_apply, hrest]

/-- **A common beginning is cut off in one piece.** What is found for some texts is the longest text
that all of them begin with, in whatever order they come. It ends at a boundary between characters
in each of the texts, so that each can be cut there, and the two parts are the whole text again.
Members of an enumeration are left with what is behind the cut in their names. The place of the cut
is the least one at which a text parts from the first. -/
theorem commonLeadOf_cut_everywhere {ts : List Text} (h : ts ≠ []) :
    IsLongestLead (commonLeadOf ts) ts ∧
      (∀ us, us.Perm ts → commonLeadOf us = commonLeadOf ts) ∧
      (∀ t ∈ ts, IsBoundary t (byteSize (commonLeadOf ts)) ∧
        ∃ rest, cutBytes? (byteSize (commonLeadOf ts)) t = some (commonLeadOf ts, rest) ∧
          commonLeadOf ts ++ rest = t) ∧
      (∀ items : List Enumerator, items.map (·.name) = ts →
        items.map (fun e => cutBytes? (byteSize (commonLeadOf ts)) e.name) =
          (Enumerator.withoutLead items).map fun m => some (commonLeadOf ts, m.name)) ∧
      byteSize (commonLeadOf ts) = leadEnd ts := by
  refine ⟨isLongestLead_commonLeadOf h, fun us => commonLeadOf_perm, ?_, ?_,
    byteSize_commonLeadOf ts⟩
  · intro t ht
    obtain ⟨rest, hcut, hwhole⟩ := exists_cutBytes?_commonLeadOf ht
    refine ⟨isSome_cutBytes?_iff.mp ?_, rest, hcut, hwhole⟩
    rw [hcut, Option.isSome_some]
  · rintro items rfl
    exact map_cutBytes?_eq items

/-- Names that first differ inside the bytes of a letter, and then by letters of other widths. -/
def accentedNames : List Text := ["sfÄÉ", "sfÄé€", "sfÄ"]

/-- The names are cut behind four bytes, although the first two have five bytes in common. -/
theorem commonLeadOf_cut_everywhere_accentedNames :
    accentedNames ≠ [] ∧ IsLongestLead "sfÄ" accentedNames ∧
      (∀ t ∈ accentedNames, IsBoundary t 4 ∧
        ∃ rest, cutBytes? 4 t = some (ofString "sfÄ", rest) ∧ ofString "sfÄ" ++ rest = t) ∧
      leadEnd accentedNames = 4 ∧ ¬ IsBoundary "sfÄÉ" 5 := by
  have hne : accentedNames ≠ [] := List.cons_ne_nil _ _
  have hlead : commonLeadOf accentedNames = "sfÄ" := by with_unfolding_all decide
  have hsize : byteSize (commonLeadOf accentedNames) = 4 := by with_unfolding_all decide
  obtain ⟨hlongest, _, hcut, _, hend⟩ := commonLeadOf_cut_everywhere hne
  rw [hsize] at hcut hend
  rw [hlead] at hlongest hcut
  refine ⟨hne, hlongest, hcut, hend.symm, ?_⟩
  rw [← isSome_cutBytes?_iff]
  with_unfolding_all decide

end Text

end Bindery
