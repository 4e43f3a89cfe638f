import Bindery.Binding.Fault
import Bindery.Proofs.Blank
import Mathlib.Data.List.Infix

/-!
# How blocks of a corpus are found again

Blocks that are joined with a separator are found again by their numbers, up to the blanks around
them, exactly when trimming the whole corpus leaves the separators alone: the blanks at its ends
have to lie in the first and in the last block. Otherwise the trimming reaches into a separator,
which is not recognised any more.
-/

namespace Bindery

namespace Text

/-! ## Joined texts -/

/-- Texts with a separator between any two of them. -/
def joined (s : Text) (bs : List Text) : Text := List.intercalate s bs

@[simp] theorem joined_nil (s : Text) : joined s [] = [] := rfl

@[simp] theorem joined_singleton (s b : Text) : joined s [b] = b := List.intercalate_singleton

/-- A text in front of others is set apart from them. -/
theorem joined_cons (s b : Text) {bs : List Text} (h : bs ≠ []) :
    joined s (b :: bs) = b ++ s ++ joined s bs := by
  obtain ⟨next, bs, rfl⟩ := List.exists_cons_of_ne_nil h
  exact List.intercalate_cons_cons

/-- A text behind others is set apart from them. -/
theorem joined_concat (s b : Text) {bs : List Text} (h : bs ≠ []) :
    joined s (bs ++ [b]) = joined s bs ++ s ++ b := by
  induction bs with
  | nil => exact absurd rfl h
  | cons first bs ih =>
    by_cases hbs : bs = []
    · subst hbs
      simp [joined_cons s first (List.cons_ne_nil b [])]
    · rw [List.cons_append, joined_cons s first (List.append_ne_nil_of_left_ne_nil hbs _), ih hbs,
        joined_cons s first hbs]
      simp only [List.append_assoc]

/-- Every one of some texts stands in their joined form. -/
theorem infix_joined {s b : Text} {bs : List Text} (h : b ∈ bs) : b <:+: joined s bs := by
  induction bs with
  | nil => cases h
  | cons first bs ih =>
    by_cases hbs : bs = []
    · subst hbs
      rw [List.mem_singleton.mp h, joined_singleton]
    · rw [joined_cons s first hbs]
      rcases List.mem_cons.mp h with rfl | h
      · rw [List.append_assoc]
        exact (List.prefix_append b _).isInfix
      · exact (ih h).trans (List.suffix_append _ _).isInfix

/-- Behind a text the separator is found where it stands, and not before. -/
def FoundBehind (s b : Text) : Prop := ∀ before after, b ++ s = before ++ s ++ after → before = b

theorem foundBehind_iff {s b : Text} :
    FoundBehind s b ↔ ∀ n < b.length, ¬ s <+: (b ++ s).drop n := by
  constructor
  · rintro h n hn ⟨after, he⟩
    have hcut : b ++ s = (b ++ s).take n ++ s ++ after := by
      rw [List.append_assoc, he, List.take_append_drop]
    have hlength := congrArg List.length (h _ _ hcut)
    rw [List.length_take, List.length_append] at hlength
    omega
  · intro h before after he
    have hlength := congrArg List.length he
    simp only [List.length_append] at hlength
    by_cases hbefore : before.length < b.length
    · refine absurd ⟨after, ?_⟩ (h before.length hbefore)
      rw [he, List.append_assoc, List.drop_left]
    · rw [List.append_assoc] at he
      exact (List.append_inj he (by omega)).1.symm

instance {s b : Text} : Decidable (FoundBehind s b) := decidable_of_iff _ foundBehind_iff.symm

/-- Some texts, at least one, such that the separator is found at the joints of their joined form
and nowhere else, when that is read from left to right. -/
inductive OnlyAtJoints (s : Text) : List Text → Prop where
  /-- The last text does not contain the separator. -/
  | last {b : Text} (h : ¬ s <:+: b) : OnlyAtJoints s [b]
  /-- Behind any other text the separator is found at the joint. -/
  | joint {b : Text} {bs : List Text} (h : FoundBehind s b) (hs : OnlyAtJoints s bs) :
    OnlyAtJoints s (b :: bs)

section Separator

variable {s : Text}

theorem OnlyAtJoints.ne_nil {bs : List Text} (h : OnlyAtJoints s bs) : bs ≠ [] := by
  cases h <;> exact List.cons_ne_nil _ _

theorem FoundBehind.of_append {lead b : Text} (h : FoundBehind s (lead ++ b)) :
    FoundBehind s b := by
  intro before after he
  have hlead : lead ++ b ++ s = lead ++ before ++ s ++ after := by
    rw [List.append_assoc, he]
    simp only [List.append_assoc]
  exact List.append_cancel_left (h _ _ hlead)

/-- A text with the separator behind it does not begin with the separator. -/
theorem FoundBehind.startsWith_eq_false {c : Char} {b : Text} (h : FoundBehind s (c :: b))
    (t : Text) : startsWith s (c :: (b ++ s ++ t)) = false := by
  rw [Bool.eq_false_iff]
  intro hstarts
  obtain ⟨rest, he⟩ := startsWith_iff.mp hstarts
  have hprefix : s <+: c :: b ++ s ++ t := ⟨rest, he.symm⟩
  have hshort : s.length ≤ (c :: b ++ s).length := by
    rw [List.length_append]
    exact Nat.le_add_left _ _
  obtain ⟨after, hafter⟩ :=
    List.prefix_of_prefix_length_le hprefix (List.prefix_append _ t) hshort
  cases h [] after hafter.symm

/-- The characters that still belong to a separator are in no piece. -/
theorem piecesFrom_skip (u t : Text) : piecesFrom s u.length (u ++ t) = piecesFrom s 0 t := by
  induction u with
  | nil => rfl
  | cons c u ih => exact ih

/-- What stands before the first separator is the first piece. -/
theorem piecesFrom_append (hs : s ≠ []) {b : Text} (h : FoundBehind s b) (t : Text) :
    piecesFrom s 0 (b ++ s ++ t) = b :: piecesFrom s 0 t := by
  induction b with
  | nil =>
    obtain ⟨c, u, rfl⟩ := List.exists_cons_of_ne_nil hs
    have hstarts : startsWith (c :: u) (c :: (u ++ t)) = true := startsWith_iff.mpr ⟨t, rfl⟩
    rw [List.nil_append, List.cons_append, piecesFrom, hstarts, if_pos rfl, List.length_cons,
      Nat.add_sub_cancel, piecesFrom_skip]
  | cons c b ih =>
    have hbehind : FoundBehind s ([c] ++ b) := h
    have htail : FoundBehind s b := hbehind.of_append
    rw [List.cons_append, List.cons_append, piecesFrom, h.startsWith_eq_false,
      if_neg Bool.false_ne_true, ih htail]
    rfl

/-- A text without the separator is one piece. -/
theorem piecesFrom_of_not_infix {b : Text} (h : ¬ s <:+: b) : piecesFrom s 0 b = [b] := by
  induction b with
  | nil => rfl
  | cons c b ih =>
    have hstarts : startsWith s (c :: b) = false := by
      rw [Bool.eq_false_iff]
      intro hstarts
      obtain ⟨rest, he⟩ := startsWith_iff.mp hstarts
      exact h (List.IsPrefix.isInfix ⟨rest, he.symm⟩)
    rw [piecesFrom, hstarts, if_neg Bool.false_ne_true,
      ih fun hb => h (hb.trans (List.suffix_cons c b).isInfix)]
    rfl

theorem pieces_of_ne_nil (hs : s ≠ []) (t : Text) : pieces s t = piecesFrom s 0 t := by
  rw [pieces, List.isEmpty_eq_false_iff.mpr hs, if_neg Bool.false_ne_true]

/-- Texts are the pieces of their joined form, if the separator is at the joints only. -/
theorem pieces_joined (hs : s ≠ []) {bs : List Text} (h : OnlyAtJoints s bs) :
    pieces s (joined s bs) = bs := by
  rw [pieces_of_ne_nil hs]
  induction h with
  | last h => exact (joined_singleton s _).symm ▸ piecesFrom_of_not_infix h
  | joint h hrest ih => rw [joined_cons s _ hrest.ne_nil, piecesFrom_append hs h, ih]

theorem piecesFrom_ne_nil (n : Nat) (t : Text) : piecesFrom s n t ≠ [] := by
  induction t generalizing n with
  | nil => exact List.cons_ne_nil [] []
  | cons c t ih =>
    cases n with
    | succ n => exact ih n
    | zero =>
      rw [piecesFrom]
      split
      · exact List.cons_ne_nil [] _
      · cases piecesFrom s 0 t <;> exact List.cons_ne_nil _ _

theorem joined_consPiece (c : Char) {bs : List Text} (h : bs ≠ []) :
    joined s (consPiece c bs) = c :: joined s bs := by
  obtain ⟨b, bs, rfl⟩ := List.exists_cons_of_ne_nil h
  cases bs with
  | nil => simp [consPiece]
  | cons next bs => simp [consPiece, joined_cons s _ (List.cons_ne_nil next bs)]

/-- The pieces of a text, joined again, are the text. -/
theorem joined_piecesFrom (hs : s ≠ []) (n : Nat) (t : Text) :
    joined s (piecesFrom s n t) = t.drop n := by
  induction t generalizing n with
  | nil => simp [piecesFrom]
  | cons c t ih =>
    cases n with
    | succ n => exact ih n
    | zero =>
      rw [piecesFrom]
      split
      · next hstarts =>
        obtain ⟨rest, he⟩ := startsWith_iff.mp hstarts
        obtain ⟨d, u, rfl⟩ := List.exists_cons_of_ne_nil hs
        obtain ⟨rfl, rfl⟩ : c = d ∧ t = u ++ rest := List.cons.inj he
        rw [List.length_cons, Nat.add_sub_cancel, joined_cons _ _ (piecesFrom_ne_nil _ _), ih,
          List.drop_left]
        rfl
      · rw [joined_consPiece c (piecesFrom_ne_nil 0 t), ih]
        rfl

/-! ## Trimming joined texts -/

/-- The first of some texts without the blanks at its front. -/
def trimFirst : List Text → List Text
  | [] => []
  | b :: bs => trimStart b :: bs

/-- The last of some texts without the blanks at its end. -/
def trimLast : List Text → List Text
  | [] => []
  | [b] => [trimEnd b]
  | b :: next :: bs => b :: trimLast (next :: bs)

theorem trimLast_cons (b : Text) {bs : List Text} (h : bs ≠ []) :
    trimLast (b :: bs) = b :: trimLast bs := by
  obtain ⟨next, bs, rfl⟩ := List.exists_cons_of_ne_nil h
  rfl

theorem map_trim_trimFirst (bs : List Text) : (trimFirst bs).map trim = bs.map trim := by
  cases bs with
  | nil => rfl
  | cons b bs => rw [trimFirst, List.map_cons, List.map_cons, trim_trimStart]

theorem map_trim_trimLast (bs : List Text) : (trimLast bs).map trim = bs.map trim := by
  fun_induction trimLast bs with
  | case1 => rfl
  | case2 b => rw [List.map_cons, List.map_cons, trim_trimEnd]
  | case3 b next bs ih => rw [List.map_cons, List.map_cons, ih]

theorem trimLast_ne_nil {bs : List Text} (h : bs ≠ []) : trimLast bs ≠ [] := by
  intro hnil
  have hmap := map_trim_trimLast bs
  rw [hnil, List.map_nil, eq_comm, List.map_eq_nil_iff] at hmap
  exact h hmap

/-- A shorter beginning of the first text has no new place for the separator. -/
theorem OnlyAtJoints.trimFirst {bs : List Text} (h : OnlyAtJoints s bs) :
    OnlyAtJoints s (trimFirst bs) := by
  cases h with
  | @last b h =>
    obtain ⟨lead, _, he⟩ := exists_blank_append_trimStart b
    have hsuffix : trimStart b <:+ b := ⟨lead, he.symm⟩
    exact .last fun hs => h (hs.trans hsuffix.isInfix)
  | @joint b bs h hrest =>
    obtain ⟨lead, _, he⟩ := exists_blank_append_trimStart b
    rw [he] at h
    exact .joint h.of_append hrest

/-- A shorter ending of the last text has no new place for the separator. -/
theorem OnlyAtJoints.trimLast {bs : List Text} (h : OnlyAtJoints s bs) :
    OnlyAtJoints s (trimLast bs) := by
  induction h with
  | @last b h =>
    obtain ⟨tail, _, he⟩ := exists_trimEnd_append_blank b
    have hprefix : trimEnd b <+: b := ⟨tail, he.symm⟩
    exact .last fun hs => h (hs.trans hprefix.isInfix)
  | joint h hrest ih =>
    rw [trimLast_cons _ hrest.ne_nil]
    exact .joint h ih

/-- Trimming joined texts leaves the separators alone: where the first text or the last one is
blank, a separator comes next that is not blank on that side. -/
structure KeepsJoints (s : Text) (bs : List Text) : Prop where
  /-- At the front. -/
  front : ∀ b ∈ bs.head?, IsBlank b → 1 < bs.length ∧ ∀ c ∈ s.head?, isBlank c = false
  /-- At the end. -/
  back : ∀ b ∈ bs.getLast?, IsBlank b → 1 < bs.length ∧ ∀ c ∈ s.getLast?, isBlank c = false

theorem head?_append_of_ne_nil (hs : s ≠ []) (t : Text) : (s ++ t).head? = s.head? := by
  obtain ⟨c, u, rfl⟩ := List.exists_cons_of_ne_nil hs
  rfl

theorem getLast?_append_of_ne_nil (hs : s ≠ []) (t : Text) : (t ++ s).getLast? = s.getLast? := by
  rw [List.getLast?_append_of_ne_nil _ hs]

/-- Trimming the front of joined texts trims the first one, unless it reaches a separator. -/
theorem trimStart_joined (hs : s ≠ []) {bs : List Text}
    (h : ∀ b ∈ bs.head?, IsBlank b → ∀ c ∈ s.head?, isBlank c = false) :
    trimStart (joined s bs) = joined s (trimFirst bs) := by
  cases bs with
  | nil => rfl
  | cons b bs =>
    by_cases hbs : bs = []
    · subst hbs
      rw [trimFirst, joined_singleton, joined_singleton]
    · rw [trimFirst, joined_cons s b hbs, joined_cons s _ hbs, List.append_assoc,
        List.append_assoc]
      apply trimStart_append
      intro hb
      apply trimStart_of_head
      rw [head?_append_of_ne_nil hs]
      exact h b rfl hb

/-- Trimming the end of joined texts trims the last one, unless it reaches a separator. -/
theorem trimEnd_joined (hs : s ≠ []) {bs : List Text}
    (h : ∀ b ∈ bs.getLast?, IsBlank b → ∀ c ∈ s.getLast?, isBlank c = false) :
    trimEnd (joined s bs) = joined s (trimLast bs) := by
  induction bs with
  | nil => rfl
  | cons b bs ih =>
    by_cases hbs : bs = []
    · subst hbs
      rw [trimLast, joined_singleton, joined_singleton]
    · have hlast : (b :: bs).getLast? = bs.getLast? := by
        obtain ⟨next, bs, rfl⟩ := List.exists_cons_of_ne_nil hbs
        exact List.getLast?_cons_cons
      rw [hlast] at h
      rw [trimLast_cons b hbs, joined_cons s b hbs, joined_cons s b (trimLast_ne_nil hbs), ← ih h]
      apply trimEnd_append
      intro hblank
      apply trimEnd_of_getLast
      rw [getLast?_append_of_ne_nil hs]
      have hmem := List.getLast_mem hbs
      exact h _ (List.getLast?_eq_getLast_of_ne_nil hbs) (hblank.of_infix (infix_joined hmem))

/-- Texts that keep their joints are not all blank together. -/
theorem KeepsJoints.not_isBlank_joined (hs : s ≠ []) {bs : List Text} (hbs : bs ≠ [])
    (h : KeepsJoints s bs) : ¬ IsBlank (joined s bs) := by
  intro hblank
  obtain ⟨b, bs, rfl⟩ := List.exists_cons_of_ne_nil hbs
  obtain ⟨c, u, rfl⟩ := List.exists_cons_of_ne_nil hs
  have hb : IsBlank b := hblank.of_infix (infix_joined List.mem_cons_self)
  obtain ⟨hlength, hc⟩ := h.front b rfl hb
  have hrest : bs ≠ [] := List.ne_nil_of_length_pos (Nat.lt_of_succ_lt_succ hlength)
  rw [joined_cons _ b hrest] at hblank
  have hmem : c ∈ b ++ c :: u ++ joined (c :: u) bs := by simp
  have hnot := hc c rfl
  rw [hblank c hmem] at hnot
  cases hnot

/-- Trimming joined texts that keep their joints trims the first and the last of them. -/
theorem KeepsJoints.trim_joined (hs : s ≠ []) {bs : List Text} (h : KeepsJoints s bs) :
    trim (joined s bs) = joined s (trimLast (trimFirst bs)) := by
  rw [trim, trimStart_joined hs fun b hb hblank => (h.front b hb hblank).2]
  apply trimEnd_joined hs
  intro b hb hblank
  cases bs with
  | nil => cases hb
  | cons first bs =>
    cases bs with
    | nil =>
      cases hb
      have hfirst : IsBlank first := by
        rw [← trim_eq_nil_iff, ← trim_trimStart, trim_eq_nil_iff]
        exact hblank
      exact (h.back first rfl hfirst).2
    | cons next bs => exact (h.back b hb hblank).2

/-- The pieces of a text that does not begin with a blank begin with a blank one only where a
separator that does not begin with a blank precedes the next one. -/
theorem head?_of_joined (hs : s ≠ []) {bs : List Text} {b : Text} (hb : b ∈ bs.head?)
    (hblank : IsBlank b) (hne : joined s bs ≠ [])
    (hhead : ∀ c ∈ (joined s bs).head?, isBlank c = false) :
    1 < bs.length ∧ ∀ c ∈ s.head?, isBlank c = false := by
  have hempty : ∀ t : Text, (∀ c ∈ (b ++ t).head?, isBlank c = false) → b = [] := by
    intro t ht
    cases b with
    | nil => rfl
    | cons c b =>
      have hc := ht c rfl
      rw [hblank c List.mem_cons_self] at hc
      cases hc
  cases bs with
  | nil => cases hb
  | cons first bs =>
    cases hb
    by_cases hbs : bs = []
    · subst hbs
      rw [joined_singleton] at hne hhead
      exact absurd (hempty [] (by rwa [List.append_nil])) hne
    · rw [joined_cons s b hbs, List.append_assoc] at hhead
      have hnil := hempty _ hhead
      rw [hnil, List.nil_append, head?_append_of_ne_nil hs] at hhead
      exact ⟨Nat.succ_lt_succ (List.length_pos_of_ne_nil hbs), hhead⟩

/-- The pieces of a text that does not end with a blank end with a blank one only where a
separator that does not end with a blank follows the one before. -/
theorem getLast?_of_joined (hs : s ≠ []) {bs : List Text} {b : Text} (hb : b ∈ bs.getLast?)
    (hblank : IsBlank b) (hne : joined s bs ≠ [])
    (hlast : ∀ c ∈ (joined s bs).getLast?, isBlank c = false) :
    1 < bs.length ∧ ∀ c ∈ s.getLast?, isBlank c = false := by
  have hempty : ∀ t : Text, (∀ c ∈ (t ++ b).getLast?, isBlank c = false) → b = [] := by
    intro t ht
    rcases List.eq_nil_or_concat b with hnil | ⟨init, c, rfl⟩
    · exact hnil
    · rw [List.concat_eq_append] at hblank ht
      rw [← List.append_assoc, List.getLast?_concat] at ht
      have hc := ht c rfl
      rw [hblank c (List.mem_append_right init List.mem_cons_self)] at hc
      cases hc
  obtain ⟨init, rfl⟩ := List.getLast?_eq_some_iff.mp hb
  by_cases hinit : init = []
  · subst hinit
    rw [List.nil_append, joined_singleton] at hne hlast
    exact absurd (hempty [] hlast) hne
  · rw [joined_concat s b hinit] at hlast
    have hnil := hempty _ hlast
    rw [hnil, List.append_nil, getLast?_append_of_ne_nil hs] at hlast
    rw [List.length_append, List.length_singleton]
    exact ⟨Nat.succ_lt_succ (List.length_pos_of_ne_nil hinit), hlast⟩

end Separator

end Text

namespace Corpus

/-- A corpus gives some blocks by their numbers, up to the blanks around them, and no others. -/
structure Addresses (c : Corpus) (bs : List Text) : Prop where
  /-- There are as many. -/
  size : c.size = bs.length
  /-- Each is found by its number. -/
  found : ∀ i b, bs[i]? = some b →
    ∃ block, c.block (i + 1) = .ok block ∧ Text.trim block = Text.trim b
  /-- The number zero is refused. -/
  zero : c.block 0 = .error (.missingBlock 0 bs.length)
  /-- A number beyond the last one is refused. -/
  beyond : ∀ number, bs.length < number →
    c.block number = .error (.missingBlock number bs.length)

private theorem block_succ_eq_ok_iff {c : Corpus} {i : Nat} {block : Text} :
    c.block (i + 1) = .ok block ↔ c.blocks[i]? = some block := by
  rw [Corpus.block, block?]
  cases c.blocks[i]? <;> simp

/-- A corpus that has as many blocks as there are texts, and each of them by its number, refuses
all other numbers. -/
theorem addresses_of_found {c : Corpus} {bs : List Text} (hsize : c.size = bs.length)
    (hfound : ∀ i b, bs[i]? = some b →
      ∃ block, c.block (i + 1) = .ok block ∧ Text.trim block = Text.trim b) :
    c.Addresses bs where
  size := hsize
  found := hfound
  zero := block_eq_error_iff.mpr ⟨Or.inl rfl, by rw [hsize]⟩
  beyond number h := block_eq_error_iff.mpr ⟨Or.inr (hsize ▸ h), by rw [hsize]⟩

variable {s : Text} {bs : List Text}

/-- The corpus that is read from blocks whose joints are kept has those blocks, but for the blanks
at its ends. -/
theorem ofText_joined (hs : s ≠ []) (h : Text.OnlyAtJoints s bs) (hkeeps : Text.KeepsJoints s bs) :
    ofText s (Text.joined s bs) = ⟨Text.trimLast (Text.trimFirst bs)⟩ := by
  have hne : (Text.trim (Text.joined s bs)).isEmpty = false :=
    List.isEmpty_eq_false_iff.mpr fun hnil =>
      hkeeps.not_isBlank_joined hs h.ne_nil (Text.trim_eq_nil_iff.mp hnil)
  rw [ofText, hne, if_neg Bool.false_ne_true, hkeeps.trim_joined hs,
    Text.pieces_joined hs h.trimFirst.trimLast]

/-- Blocks whose joints are kept are found again. -/
theorem addresses_of_keepsJoints (hs : s ≠ []) (h : Text.OnlyAtJoints s bs)
    (hkeeps : Text.KeepsJoints s bs) : (ofText s (Text.joined s bs)).Addresses bs := by
  have hmap : (Text.trimLast (Text.trimFirst bs)).map Text.trim = bs.map Text.trim := by
    rw [Text.map_trim_trimLast, Text.map_trim_trimFirst]
  rw [ofText_joined hs h hkeeps]
  apply addresses_of_found
  · have hlength := congrArg List.length hmap
    rwa [List.length_map, List.length_map] at hlength
  · intro i b hb
    have hi : (Text.trimLast (Text.trimFirst bs))[i]?.map Text.trim = some (Text.trim b) := by
      rw [← List.getElem?_map, hmap, List.getElem?_map, hb, Option.map_some]
    obtain ⟨block, hblock, htrim⟩ := Option.map_eq_some_iff.mp hi
    exact ⟨block, block_succ_eq_ok_iff.mpr hblock, htrim⟩

/-- The blocks that are read, joined again, are the trimmed text, where there are any. -/
theorem joined_blocks (hs : s ≠ []) {t : Text} (h : (ofText s t).blocks ≠ []) :
    Text.trim t ≠ [] ∧ Text.joined s (ofText s t).blocks = Text.trim t := by
  unfold ofText at h ⊢
  by_cases hempty : (Text.trim t).isEmpty = true
  · simp [hempty] at h
  · rw [if_neg hempty, Text.pieces_of_ne_nil hs, Text.joined_piecesFrom hs]
    exact ⟨fun hnil => hempty (List.isEmpty_iff.mpr hnil), rfl⟩

/-- Blocks that are found again keep their joints. -/
theorem Addresses.keepsJoints (hs : s ≠ []) (hbs : bs ≠ [])
    (h : (ofText s (Text.joined s bs)).Addresses bs) : Text.KeepsJoints s bs := by
  have hlength : (ofText s (Text.joined s bs)).blocks.length = bs.length := h.size
  have hne : (ofText s (Text.joined s bs)).blocks ≠ [] := by
    rw [← List.length_pos_iff, hlength]
    exact List.length_pos_of_ne_nil hbs
  obtain ⟨htrim, hjoined⟩ := joined_blocks hs hne
  -- What is read for a blank block is blank, and it stands at the same place.
  have hblank : ∀ (i : Nat) (b : Text), bs[i]? = some b → Text.IsBlank b →
      ∃ block, (ofText s (Text.joined s bs)).blocks[i]? = some block ∧ Text.IsBlank block := by
    intro i b hb hblank
    obtain ⟨block, hblock, hsame⟩ := h.found i b hb
    refine ⟨block, block_succ_eq_ok_iff.mp hblock, ?_⟩
    rw [← Text.trim_eq_nil_iff, hsame, Text.trim_eq_nil_iff]
    exact hblank
  constructor
  · intro b hb hblankb
    rw [Option.mem_def, List.head?_eq_getElem?] at hb
    obtain ⟨block, hblock, hblankblock⟩ := hblank 0 b hb hblankb
    rw [← List.head?_eq_getElem?] at hblock
    rw [← hlength]
    exact Text.head?_of_joined hs hblock hblankblock (hjoined ▸ htrim)
      (hjoined ▸ Text.isBlank_head_trim)
  · intro b hb hblankb
    rw [Option.mem_def, List.getLast?_eq_getElem?] at hb
    obtain ⟨block, hblock, hblankblock⟩ := hblank _ b hb hblankb
    rw [← hlength, ← List.getLast?_eq_getElem?] at hblock
    rw [← hlength]
    exact Text.getLast?_of_joined hs hblock hblankblock (hjoined ▸ htrim)
      (hjoined ▸ Text.isBlank_getLast_trim)

/-- Blocks whose separator is found at their joints only are found again in the corpus that is read
from their joined form, exactly when trimming that form leaves the joints alone. -/
theorem addresses_iff_keepsJoints (s : Text) (bs : List Text) (hs : s ≠ [])
    (h : Text.OnlyAtJoints s bs) :
    (ofText s (Text.joined s bs)).Addresses bs ↔ Text.KeepsJoints s bs :=
  ⟨fun haddresses => haddresses.keepsJoints hs h.ne_nil, addresses_of_keepsJoints hs h⟩

/-- Blocks with blanks around them, one of them empty. -/
def paddedBlocks : List Text := [" \nA window", "", "A view\n"]

/-- Blanks around the blocks and an empty block in the midst do no harm. -/
theorem addresses_iff_keepsJoints_paddedBlocks :
    standardSeparator ≠ [] ∧ Text.OnlyAtJoints standardSeparator paddedBlocks ∧
      Text.KeepsJoints standardSeparator paddedBlocks ∧
      (ofText standardSeparator (Text.joined standardSeparator paddedBlocks)).Addresses
        paddedBlocks := by
  have hs : standardSeparator ≠ [] := by with_unfolding_all decide
  have hjoints : Text.OnlyAtJoints standardSeparator paddedBlocks :=
    .joint (by with_unfolding_all decide) (.joint (by with_unfolding_all decide) (.last
      (by with_unfolding_all decide)))
  have hkeeps : Text.KeepsJoints standardSeparator paddedBlocks := by
    constructor
    · intro b hb hblank
      cases hb
      exact absurd hblank (by with_unfolding_all decide)
    · intro b hb hblank
      cases hb
      exact absurd hblank (by with_unfolding_all decide)
  exact ⟨hs, hjoints, hkeeps, (addresses_iff_keepsJoints _ _ hs hjoints).mpr hkeeps⟩

/-- Blocks of which the first one is empty. -/
def emptyFirstBlocks : List Text := ["", "A window"]

/-- An empty block at the front is lost: trimming takes the line end off the separator behind it,
and the two blocks are read as one. -/
theorem not_addresses_emptyFirstBlocks :
    standardSeparator ≠ [] ∧ Text.OnlyAtJoints standardSeparator emptyFirstBlocks ∧
      ¬ (ofText standardSeparator (Text.joined standardSeparator emptyFirstBlocks)).Addresses
        emptyFirstBlocks := by
  refine ⟨by with_unfolding_all decide, .joint (by with_unfolding_all decide) (.last
    (by with_unfolding_all decide)), ?_⟩
  intro h
  have hsize : (ofText standardSeparator
      (Text.joined standardSeparator emptyFirstBlocks)).size = 1 := by with_unfolding_all decide
  rw [h.size] at hsize
  cases hsize

end Corpus

end Bindery
