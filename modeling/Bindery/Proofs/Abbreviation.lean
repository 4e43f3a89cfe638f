import Bindery.Proofs.PropertyName
import Bindery.Proofs.Rewriting

/-!
# Names that are shortened

An identifier is written with a small letter in front, and the word for texts is shortened in it.
Two C names become the same identifier exactly when they differ in nothing but that: in the size of
the first letter, in a keyword that is written for its replacement, and in places where one has the
word in full and the other one has it short.
-/

namespace Bindery

/-! ## The word for texts -/

/-- A letter that the word for texts begins with. -/
def IsTextInitial (c : Char) : Prop := c = 's' ∨ c = 'S'

instance (c : Char) : Decidable (IsTextInitial c) := inferInstanceAs (Decidable (_ ∨ _))

/-- What follows the first letter of the word for texts. -/
def fullTail : Text := ['t', 'r', 'i', 'n', 'g']

/-- What follows it where the word is short. -/
def shortTail : Text := ['t', 'r']

/-- What is left out of the word. -/
def droppedTail : Text := ['i', 'n', 'g']

section Shortened

variable {c : Char} {s t word : Text}

private theorem textWords_eq : Text.ofString "String" = 'S' :: fullTail ∧
    Text.ofString "string" = 's' :: fullTail ∧ Text.ofString "Str" = 'S' :: shortTail ∧
      Text.ofString "str" = 's' :: shortTail := by
  with_unfolding_all decide

/-- Where the word for texts does not begin, a letter is kept. -/
theorem abbreviated_cons (h : IsTextInitial c → ¬ fullTail <+: t) :
    abbreviated (c :: t) = c :: abbreviated t := by
  obtain ⟨hlarge, hsmall, hlargeShort, hsmallShort⟩ := textWords_eq
  rw [abbreviated, abbreviated, hlarge, hsmall, hlargeShort, hsmallShort]
  rw [Text.replace_cons, Text.replace_cons]
  · rw [Bool.eq_false_iff]
    intro hstarts
    obtain ⟨rest, hrest⟩ := Text.startsWith_iff.mp hstarts
    obtain ⟨rfl, htail⟩ := List.cons.inj hrest
    have hkept : fullTail <+: Text.rewriteFrom (Text.Rule.literal ('S' :: fullTail)
      ('S' :: shortTail)) none 0 t := ⟨rest, htail.symm⟩
    exact h (Or.inl rfl) (Text.prefix_of_prefix_rewriteFrom (by rfl) (by decide) hkept)
  · rw [Bool.eq_false_iff]
    intro hstarts
    obtain ⟨rest, hrest⟩ := Text.startsWith_iff.mp hstarts
    obtain ⟨rfl, rfl⟩ := List.cons.inj hrest
    exact h (Or.inr rfl) (List.prefix_append _ _)

/-- The word for texts is shortened. -/
theorem abbreviated_text (h : IsTextInitial c) (t : Text) :
    abbreviated (c :: (fullTail ++ t)) = c :: (shortTail ++ abbreviated t) := by
  obtain ⟨hlarge, hsmall, hlargeShort, hsmallShort⟩ := textWords_eq
  rw [abbreviated, abbreviated, hlarge, hsmall, hlargeShort, hsmallShort]
  rcases h with rfl | rfl
  · have hkept := @Text.replace_append_of_not_mem ('s' :: fullTail) 'S' (by decide) fullTail
      ('S' :: shortTail) t
    rw [List.cons_append] at hkept
    rw [hkept]
    exact Text.replace_append (List.cons_ne_nil 's' fullTail) _ _
  · have hshort := Text.replace_append (List.cons_ne_nil 'S' fullTail) ('S' :: shortTail) t
    rw [List.cons_append] at hshort
    rw [hshort]
    exact Text.replace_append_of_not_mem (s := 'S' :: shortTail) (by decide) _ _ _

/-- A text begins with the word for texts, or it does not. -/
theorem exists_text_or (c : Char) (t : Text) :
    (IsTextInitial c ∧ ∃ rest, t = fullTail ++ rest) ∨ (IsTextInitial c → ¬ fullTail <+: t) := by
  by_cases h : IsTextInitial c ∧ fullTail <+: t
  · obtain ⟨hc, rest, hrest⟩ := h
    exact Or.inl ⟨hc, rest, hrest.symm⟩
  · exact Or.inr fun hc hword => h ⟨hc, hword⟩

theorem abbreviated_nil : abbreviated [] = [] := rfl

/-- A shortened text begins with the same letter. -/
theorem head?_abbreviated (t : Text) : (abbreviated t).head? = t.head? := by
  cases t with
  | nil => rfl
  | cons c t =>
    rcases exists_text_or c t with ⟨hc, rest, rfl⟩ | hc
    · rw [abbreviated_text hc]
      rfl
    · rw [abbreviated_cons hc]
      rfl

/-- Letters of which none can be the first one of the word for texts are kept. -/
theorem abbreviated_append (h : ∀ c ∈ s, ¬ IsTextInitial c) (t : Text) :
    abbreviated (s ++ t) = s ++ abbreviated t := by
  induction s with
  | nil => rfl
  | cons c s ih =>
    rw [List.cons_append, abbreviated_cons fun hc => absurd hc (h c List.mem_cons_self),
      ih fun d hd => h d (List.mem_cons_of_mem c hd), List.cons_append]

/-- Letters of which the first one is none of the word are shortened on their own. -/
theorem abbreviated_append_of_head? (h : ∀ c ∈ t.head?, ¬ IsTextInitial c ∧ c ∉ fullTail)
    (s : Text) : abbreviated (s ++ t) = abbreviated s ++ abbreviated t := by
  obtain ⟨hlarge, hsmall, hlargeShort, _⟩ := textWords_eq
  have hword : ∀ c ∈ t.head?, c ∉ 'S' :: fullTail ∧ c ∉ 's' :: fullTail := by
    intro c hc
    obtain ⟨hinitial, htail⟩ := h c hc
    constructor
    · exact List.not_mem_cons_of_ne_of_not_mem (fun he => hinitial (Or.inr he)) htail
    · exact List.not_mem_cons_of_ne_of_not_mem (fun he => hinitial (Or.inl he)) htail
  rw [abbreviated, abbreviated, abbreviated, hlarge, hsmall, hlargeShort,
    Text.replace_append_of_disjoint (fun c hc => (hword c hc).1) (List.cons_ne_nil _ _),
    Text.replace_append_of_disjoint _ (List.cons_ne_nil _ _)]
  intro c hc
  rw [Text.head?_replace (by rfl) (List.cons_ne_nil _ _)] at hc
  exact (hword c hc).2

/-- The word is short already where its last letters are missing. -/
theorem abbreviated_shortText (h : ¬ droppedTail <+: t) :
    abbreviated (c :: (shortTail ++ t)) = c :: (shortTail ++ abbreviated t) := by
  have hword : ¬ fullTail <+: shortTail ++ t := by
    have hsplit : fullTail = shortTail ++ droppedTail := rfl
    rw [hsplit, List.prefix_append_right_inj]
    exact h
  rw [abbreviated_cons fun _ => hword, abbreviated_append (by decide)]

/-- What becomes a text that begins with a letter begins with it, and what follows becomes the rest,
unless the word for texts has been shortened there. -/
theorem abbreviated_eq_cons_iff {r : Text} : abbreviated t = c :: r ↔
    (∃ u, t = c :: u ∧ abbreviated u = r ∧ (IsTextInitial c → ¬ fullTail <+: u)) ∨
      IsTextInitial c ∧ ∃ u, t = c :: (fullTail ++ u) ∧ shortTail ++ abbreviated u = r := by
  constructor
  · intro h
    cases t with
    | nil => cases h
    | cons d t =>
      rcases exists_text_or d t with ⟨hd, rest, rfl⟩ | hd
      · rw [abbreviated_text hd] at h
        obtain ⟨rfl, hr⟩ := List.cons.inj h
        exact Or.inr ⟨hd, rest, rfl, hr⟩
      · rw [abbreviated_cons hd] at h
        obtain ⟨rfl, hr⟩ := List.cons.inj h
        exact Or.inl ⟨t, rfl, hr, hd⟩
  · rintro (⟨u, rfl, rfl, hc⟩ | ⟨hc, u, rfl, rfl⟩)
    · exact abbreviated_cons hc
    · exact abbreviated_text hc u

end Shortened

/-! ## Texts that become the same -/

/-- Two texts differ only in places where one has the word for texts in full and the other one has
it short. Where its last letters follow the short word, that is the word in full. -/
inductive SameShortened : Text → Text → Prop where
  /-- Both end. -/
  | nil : SameShortened [] []
  /-- Both have the same letter. -/
  | cons (c : Char) {s t : Text} (h : SameShortened s t) : SameShortened (c :: s) (c :: t)
  /-- The second one has the word short. -/
  | left {c : Char} {s t : Text} (hc : IsTextInitial c) (ht : ¬ droppedTail <+: t)
    (h : SameShortened s t) : SameShortened (c :: (fullTail ++ s)) (c :: (shortTail ++ t))
  /-- The first one has the word short. -/
  | right {c : Char} {s t : Text} (hc : IsTextInitial c) (hs : ¬ droppedTail <+: s)
    (h : SameShortened s t) : SameShortened (c :: (shortTail ++ s)) (c :: (fullTail ++ t))

namespace SameShortened

variable {s t u word : Text}

theorem refl (t : Text) : SameShortened t t := by
  induction t with
  | nil => exact nil
  | cons c t ih => exact cons c ih

theorem symm (h : SameShortened s t) : SameShortened t s := by
  induction h with
  | nil => exact nil
  | cons c _ ih => exact cons c ih
  | left hc ht _ ih => exact right hc ht ih
  | right hc hs _ ih => exact left hc hs ih

theorem append_left (u : Text) (h : SameShortened s t) : SameShortened (u ++ s) (u ++ t) := by
  induction u with
  | nil => exact h
  | cons c u ih => exact cons c ih

/-- Letters of which none can be the first one of the word are the same in both texts. -/
theorem exists_append (hword : ∀ c ∈ word, ¬ IsTextInitial c) (h : SameShortened (word ++ s) t) :
    ∃ u, t = word ++ u ∧ SameShortened s u := by
  induction word generalizing t with
  | nil => exact ⟨t, rfl, h⟩
  | cons c word ih =>
    have hc := hword c List.mem_cons_self
    rw [List.cons_append] at h
    generalize hs : word ++ s = behind at h
    cases h with
    | cons _ h =>
      rw [← hs] at h
      obtain ⟨u, rfl, hu⟩ := ih (fun d hd => hword d (List.mem_cons_of_mem c hd)) h
      exact ⟨u, rfl, hu⟩
    | left hinitial => exact absurd hinitial hc
    | right hinitial => exact absurd hinitial hc

/-- Such texts become the same. -/
theorem abbreviated_eq (h : SameShortened s t) : abbreviated s = abbreviated t := by
  induction h with
  | nil => rfl
  | @cons c s t h ih =>
    rcases exists_text_or c s with ⟨hc, rest, rfl⟩ | hc
    · have hkept : ∀ d ∈ fullTail, ¬ IsTextInitial d := by decide
      obtain ⟨u, rfl, _⟩ := exists_append hkept h
      rw [abbreviated_append hkept, abbreviated_append hkept, List.append_cancel_left_eq] at ih
      rw [abbreviated_text hc, abbreviated_text hc, ih]
    · have hword : IsTextInitial c → ¬ fullTail <+: t := by
        rintro hinitial ⟨rest, rfl⟩
        obtain ⟨u, rfl, _⟩ := exists_append (by decide) h.symm
        exact hc hinitial (List.prefix_append _ _)
      rw [abbreviated_cons hc, abbreviated_cons hword, ih]
  | left hc ht _ ih => rw [abbreviated_text hc, abbreviated_shortText ht, ih]
  | right hc hs _ ih => rw [abbreviated_text hc, abbreviated_shortText hs, ih]

end SameShortened

section Shortened

variable {s t u word r : Text}

/-- Letters at which the word for texts has not been shortened are there already before. -/
theorem abbreviated_eq_append_iff
    (h : ∀ c v, c :: v <:+ word → IsTextInitial c → ¬ shortTail <+: v ++ r) :
    abbreviated t = word ++ r ↔ ∃ u, t = word ++ u ∧ abbreviated u = r := by
  induction word generalizing t with
  | nil => simp
  | cons c word ih =>
    have hbehind := fun {t} => ih (t := t) fun d v hv =>
      h d v (hv.trans (List.suffix_cons c word))
    have hc := h c word List.suffix_rfl
    rw [List.cons_append, abbreviated_eq_cons_iff]
    constructor
    · rintro (⟨u, rfl, hu, _⟩ | ⟨hinitial, u, _, hu⟩)
      · obtain ⟨v, rfl, hv⟩ := hbehind.mp hu
        exact ⟨v, rfl, hv⟩
      · exact absurd ⟨_, hu⟩ (hc hinitial)
    · rintro ⟨u, rfl, hu⟩
      refine Or.inl ⟨word ++ u, rfl, hbehind.mpr ⟨u, rfl, hu⟩, ?_⟩
      rintro hinitial ⟨rest, hrest⟩
      refine hc hinitial ⟨droppedTail ++ abbreviated rest, ?_⟩
      rw [← hbehind.mpr ⟨u, rfl, hu⟩, ← hrest, abbreviated_append (by decide)]
      rfl

/-- What becomes the short word and a rest has the word short, as far as it has it not in full. -/
theorem exists_shortText (hword : ¬ fullTail <+: u) (h : abbreviated u = shortTail ++ r) :
    ∃ v, u = shortTail ++ v ∧ abbreviated v = r ∧ ¬ droppedTail <+: v := by
  have hinitial : ∀ c ∈ shortTail, ¬ IsTextInitial c := by decide
  obtain ⟨v, rfl, hv⟩ := (abbreviated_eq_append_iff fun c v hv hc =>
    absurd hc (hinitial c (hv.subset List.mem_cons_self))).mp h
  refine ⟨v, rfl, hv, fun hdropped => hword ?_⟩
  exact (List.prefix_append_right_inj shortTail).mpr hdropped

/-- Texts become the same exactly when they differ in the word for texts only. -/
theorem abbreviated_eq_abbreviated_iff : abbreviated s = abbreviated t ↔ SameShortened s t := by
  refine ⟨fun h => ?_, SameShortened.abbreviated_eq⟩
  induction hn : s.length using Nat.strongRecOn generalizing s t with
  | ind n ih =>
    cases s with
    | nil =>
      have hhead := head?_abbreviated t
      rw [← h] at hhead
      rw [List.head?_eq_none_iff.mp hhead.symm]
      exact .nil
    | cons c s =>
      rw [List.length_cons] at hn
      rcases exists_text_or c s with ⟨hc, rest, rfl⟩ | hc
      · have hrest : rest.length < n := by
          rw [List.length_append] at hn
          omega
        rw [abbreviated_text hc, eq_comm, abbreviated_eq_cons_iff] at h
        rcases h with ⟨u, rfl, hu, hword⟩ | ⟨_, u, rfl, hu⟩
        · obtain ⟨v, rfl, hv, hdropped⟩ := exists_shortText (hword hc) hu
          exact .left hc hdropped (ih _ hrest hv.symm rfl)
        · exact .cons c (.append_left fullTail (ih _ hrest (List.append_cancel_left hu).symm rfl))
      · rw [abbreviated_cons hc, eq_comm, abbreviated_eq_cons_iff] at h
        rcases h with ⟨u, rfl, hu, _⟩ | ⟨hinitial, u, rfl, hu⟩
        · exact .cons c (ih _ (by omega) hu.symm rfl)
        · obtain ⟨v, rfl, hv, hdropped⟩ := exists_shortText (hc hinitial) hu.symm
          rw [List.length_append] at hn
          exact .right hinitial hdropped (ih _ (by omega) hv rfl)

end Shortened

/-! ## Identifiers -/

namespace Text

/-- A small form is one character, but for that of the dotted capital I. -/
theorem lowerChar_eq_singleton_or (c : Char) :
    (∃ d, lowerChar c = [d]) ∨ lowerChar c = ['i', Char.ofNat 0x307] := by
  unfold lowerChar
  split
  · exact Or.inl ⟨_, rfl⟩
  · split
    · exact Or.inr rfl
    · split <;> exact Or.inl ⟨_, rfl⟩

/-- Only a letter that the word for texts begins with has a small form that is one. -/
theorem isTextInitial_of_mem_lowerChar {c d : Char} (hd : IsTextInitial d)
    (h : d ∈ lowerChar c) : IsTextInitial c ∧ lowerChar c = ['s'] := by
  have hs : d = 's' := by
    rcases hd with rfl | rfl
    · rfl
    · rcases mem_lowerChar h with ⟨_, hupper⟩ | hcode
      · exact absurd hupper (by decide)
      · exact absurd hcode (by decide)
  subst hs
  rcases lowerChar_eq_singleton_or c with ⟨e, hlower⟩ | hlower
  · rw [hlower] at h
    rw [← List.mem_singleton.mp h] at hlower
    refine ⟨?_, hlower⟩
    rcases lowerChar_eq_cons hlower (by decide) with ⟨hc, hcase, _⟩ | hmark | hk
    · have hletter := eq_or_eq_toUpper_toLower hc
      rw [hcase] at hletter
      exact hletter
    · cases hmark
    · exact absurd hk (by decide)
  · rw [hlower] at h
    exact absurd h (by decide)

end Text

/-- It does not matter whether a text is shortened before or after its first letter is made
small. -/
theorem lowerFirst_abbreviated (t : Text) :
    Text.lowerFirst (abbreviated t) = abbreviated (Text.lowerFirst t) := by
  cases t with
  | nil => rfl
  | cons c t =>
    by_cases hsmall : ∃ d ∈ Text.lowerChar c, IsTextInitial d
    · obtain ⟨d, hd, hinitial⟩ := hsmall
      obtain ⟨hc, hlower⟩ := Text.isTextInitial_of_mem_lowerChar hinitial hd
      rw [Text.lowerFirst, hlower, List.singleton_append]
      rcases exists_text_or c t with ⟨_, rest, rfl⟩ | hword
      · rw [abbreviated_text hc, abbreviated_text (Or.inl rfl), Text.lowerFirst, hlower]
        rfl
      · rw [abbreviated_cons hword, abbreviated_cons fun _ => hword hc, Text.lowerFirst, hlower]
        rfl
    · have hc : ¬ IsTextInitial c := by
        intro hc
        refine hsmall ⟨'s', ?_, Or.inl rfl⟩
        rcases hc with rfl | rfl <;> decide
      rw [abbreviated_cons fun h => absurd h hc, Text.lowerFirst, Text.lowerFirst,
        abbreviated_append fun d hd hinitial => hsmall ⟨d, hd, hinitial⟩]

/-- A name that is a keyword is written as its replacement. -/
def replacedName (name : Text) : Text := (keywordNames.lookup name).getD name

/-- An identifier is the shortened form of the name with a small letter in front. -/
theorem identifierName_eq (name : Text) :
    identifierName name = abbreviated (Text.lowerFirst (replacedName name)) :=
  lowerFirst_abbreviated (replacedName name)

/-- Two C names are written in the same way as identifiers: but for the size of their first letters
and for keywords, they differ in the word for texts only. -/
def SameIdentifier (a b : Text) : Prop :=
  SameShortened (Text.lowerFirst (replacedName a)) (Text.lowerFirst (replacedName b))

theorem identifierName_eq_identifierName_iff {a b : Text} :
    identifierName a = identifierName b ↔ SameIdentifier a b := by
  rw [identifierName_eq, identifierName_eq, abbreviated_eq_abbreviated_iff, SameIdentifier]

end Bindery
