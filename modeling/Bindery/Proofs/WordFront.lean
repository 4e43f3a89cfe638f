import Bindery.Header.Statement
import Bindery.Proofs.Furthest
import Bindery.Proofs.Splitting

/-!
# Pieces that begin with a word

What a reader makes of pieces is mostly decided by the first of them. Where that is a word, most
readers begin only with some words, which they have by the way they are written; a reader that does
not begin with the word reads nothing there.
-/

namespace Bindery.Header

/-! ### Words, marks and groups -/

namespace Piece

variable {p : Piece} {c d : Char} {w : Text}

theorem exists_of_word? (h : p.word? = some w) :
    ∃ n t, p = .token n t ∧ t.kind = .word ∧ t.text = w := by
  cases p with
  | group => cases h
  | token n t =>
    rw [word?] at h
    split at h
    · next hword => exact ⟨n, t, rfl, eq_of_beq hword, Option.some.inj h⟩
    · cases h

theorem isMark_of_word? (h : p.word? = some w) (c : Char) : p.isMark c = false := by
  obtain ⟨n, t, rfl, hkind, -⟩ := exists_of_word? h
  exact Token.isMark_eq_false_of_isWord (beq_iff_eq.mpr hkind) c

theorem isGroup_of_word? (h : p.word? = some w) (c : Char) : p.isGroup c = false := by
  obtain ⟨n, t, rfl, -, -⟩ := exists_of_word? h
  rfl

theorem isOneOf_of_word? (h : p.word? = some w) (words : List Text) :
    p.isOneOf words = words.contains w := by
  obtain ⟨n, t, rfl, hkind, rfl⟩ := exists_of_word? h
  change (t.kind == .word && words.contains t.text) = _
  rw [hkind]
  rfl

theorem isOneOf_of_word?_eq_none (h : p.word? = none) (words : List Text) :
    p.isOneOf words = false := by
  cases p with
  | group => rfl
  | token n t =>
    have hword : t.isWord = false := by
      rw [Bool.eq_false_iff]
      intro hword
      rw [word?, if_pos hword] at h
      cases h
    change (t.isWord && _) = false
    rw [hword]
    rfl

/-- What is none of some words is none of fewer. -/
theorem isOneOf_of_subset {words some : List Text} (h : p.isOneOf words = false)
    (hsome : some ⊆ words) : p.isOneOf some = false := by
  cases hp : p.word? with
  | none => exact isOneOf_of_word?_eq_none hp some
  | some w =>
    rw [isOneOf_of_word? hp, List.contains_eq_mem, decide_eq_false_iff_not] at h ⊢
    exact fun hmem => h (hsome hmem)

theorem head_isOneOf_of_subset {ps : List Piece} {words some : List Text}
    (h : ps.head?.any (·.isOneOf words) = false) (hsome : some ⊆ words) :
    ps.head?.any (·.isOneOf some) = false := by
  cases ps with
  | nil => rfl
  | cons p ps => exact isOneOf_of_subset h hsome

theorem exists_of_isMark (h : p.isMark c = true) : ∃ n t, p = .token n t ∧ t.isMark c = true := by
  cases p with
  | group => cases h
  | token n t => exact ⟨n, t, rfl, h⟩

theorem isMark_of_isMark (h : p.isMark c = true) (hne : c ≠ d) : p.isMark d = false := by
  obtain ⟨n, t, rfl, ht⟩ := exists_of_isMark h
  exact Token.isMark_eq_false ht hne

theorem isGroup_of_isMark (h : p.isMark c = true) (d : Char) : p.isGroup d = false := by
  obtain ⟨n, t, rfl, -⟩ := exists_of_isMark h
  rfl

theorem word?_of_isMark (h : p.isMark c = true) : p.word? = none := by
  obtain ⟨n, t, rfl, ht⟩ := exists_of_isMark h
  rw [word?, Token.isWord, Token.kind_of_isMark ht]
  rfl

theorem isOneOf_of_isMark (h : p.isMark c = true) (words : List Text) :
    p.isOneOf words = false := by
  obtain ⟨n, t, rfl, ht⟩ := exists_of_isMark h
  change (t.kind == .word && _) = false
  rw [Token.kind_of_isMark ht]
  rfl

theorem exists_of_isGroup (h : p.isGroup c = true) :
    ∃ n o inside source readings, p = .group n o inside source readings ∧ o.isMark c = true := by
  cases p with
  | token => cases h
  | group n o inside source readings => exact ⟨n, o, inside, source, readings, rfl, h⟩

theorem isMark_of_isGroup (h : p.isGroup c = true) (d : Char) : p.isMark d = false := by
  obtain ⟨n, o, inside, source, readings, rfl, -⟩ := exists_of_isGroup h
  rfl

theorem isGroup_of_isGroup (h : p.isGroup c = true) (hne : c ≠ d) : p.isGroup d = false := by
  obtain ⟨n, o, inside, source, readings, rfl, ho⟩ := exists_of_isGroup h
  exact Token.isMark_eq_false ho hne

theorem word?_of_isGroup (h : p.isGroup c = true) : p.word? = none := by
  obtain ⟨n, o, inside, source, readings, rfl, -⟩ := exists_of_isGroup h
  rfl

theorem isOneOf_of_isGroup (h : p.isGroup c = true) (words : List Text) :
    p.isOneOf words = false := by
  obtain ⟨n, o, inside, source, readings, rfl, -⟩ := exists_of_isGroup h
  rfl

/-- A word or a number. -/
def IsPlain (p : Piece) : Prop := p.kind? = some .word ∨ p.kind? = some .number

theorem isPlain_of_word? (h : p.word? = some w) : p.IsPlain := by
  obtain ⟨n, t, rfl, hkind, -⟩ := exists_of_word? h
  exact Or.inl (congrArg some hkind)

theorem IsPlain.exists_token (h : p.IsPlain) :
    ∃ n t, p = .token n t ∧ (t.kind = .word ∨ t.kind = .number) := by
  cases p with
  | group => rcases h with h | h <;> cases h
  | token n t => exact ⟨n, t, rfl, h.imp Option.some.inj Option.some.inj⟩

theorem IsPlain.isMark (h : p.IsPlain) (c : Char) : p.isMark c = false := by
  obtain ⟨n, t, rfl, hkind⟩ := h.exists_token
  change (t.kind == .mark && _) = false
  rcases hkind with hkind | hkind <;> rw [hkind] <;> rfl

theorem IsPlain.isGroup (h : p.IsPlain) (c : Char) : p.isGroup c = false := by
  obtain ⟨n, t, rfl, -⟩ := h.exists_token
  rfl

theorem inside?_eq_none (h : p.isGroup c = false) : p.inside? c = none := by
  cases p with
  | token => rfl
  | group n o inside source readings =>
    have ho : o.isMark c = false := h
    simp [inside?, ho]

end Piece

open Piece

namespace Reader

variable {α β : Type} {p : Piece} {ps : List Piece}

/-! ### First pieces -/

section First

variable {c : Char} {words reserved : List Text} {w : Text}

theorem piece_eq_nil {f : Piece → Option α} (h : ps.head?.bind f = none) : piece f ps = [] := by
  cases ps with
  | nil => rfl
  | cons p ps =>
    have hp : f p = none := h
    rw [piece, hp]
    rfl

theorem piece_cons {f : Piece → Option α} {a : α} (h : f p = some a) (ps : List Piece) :
    piece f (p :: ps) = [⟨a, 0, ps⟩] := by
  rw [piece, h]
  rfl

theorem satisfying_eq_nil {f : Piece → Bool} (h : ps.head?.any f = false) :
    satisfying f ps = [] := by
  cases ps with
  | nil => rfl
  | cons p ps =>
    have hp : f p = false := h
    exact piece_eq_nil (by simp [hp])

theorem mark_eq_nil (h : ps.head?.any (·.isMark c) = false) : mark c ps = [] := by
  cases ps with
  | nil => rfl
  | cons p ps =>
    have hp : p.isMark c = false := h
    exact piece_eq_nil (by simp [hp])

theorem mark_cons (h : p.isMark c = true) (ps : List Piece) : mark c (p :: ps) = [⟨(), 0, ps⟩] :=
  piece_cons (if_pos h) ps

theorem word_eq_nil (h : ps.head?.any (·.isOneOf words) = false) : word words ps = [] := by
  cases ps with
  | nil => rfl
  | cons p ps =>
    have hp : p.isOneOf words = false := h
    exact piece_eq_nil (by simp [hp])

theorem word_cons (h : p.isOneOf words = true) (ps : List Piece) :
    word words (p :: ps) = [⟨(), 0, ps⟩] :=
  piece_cons (if_pos h) ps

theorem name_eq_nil (h : ps.head?.bind Piece.word? = none) : name reserved ps = [] := by
  cases ps with
  | nil => rfl
  | cons p ps =>
    have hp : p.word? = none := h
    exact piece_eq_nil (by simp [hp])

theorem name_cons (hp : p.word? = some w) (hw : w ∉ reserved) (ps : List Piece) :
    name reserved (p :: ps) = [⟨w, 0, ps⟩] :=
  piece_cons (by rw [hp]; simpa [Option.filter] using hw) ps

theorem name_cons_of_mem (hp : p.word? = some w) (hw : w ∈ reserved) (ps : List Piece) :
    name reserved (p :: ps) = [] :=
  piece_eq_nil (by simpa [hp, Option.filter] using hw)

theorem group_eq_nil {f : Readings → Option (Weighted α)} (h : ps.head?.any (·.isGroup c) = false) :
    group c f ps = [] := by
  cases ps with
  | nil => rfl
  | cons p ps =>
    have hp : p.isGroup c = false := h
    rw [group, hp]
    rfl

theorem group_cons_of_none {f : Readings → Option (Weighted α)} (h : f p.readings = none) :
    group c f (p :: ps) = [] := by
  rw [group, h]
  split <;> rfl

theorem group_cons {f : Readings → Option (Weighted α)} {x : Weighted α}
    (hp : p.isGroup c = true) (hf : f p.readings = some x) (ps : List Piece) :
    group c f (p :: ps) = [⟨x.value, x.weight, ps⟩] := by
  rw [group, if_pos hp, hf]
  rfl

/-- What is read of a group has the value and the weight of the reading. -/
theorem exists_of_mem_group {f : Readings → Option (Weighted α)} {x : Parse α}
    (h : x ∈ group c f (p :: ps)) : ∃ w, f p.readings = some w ∧ x = ⟨w.value, w.weight, ps⟩ := by
  rw [group] at h
  split at h
  · obtain ⟨w, hw, rfl⟩ := List.mem_map.mp h
    exact ⟨w, Option.mem_toList.mp hw, rfl⟩
  · exact absurd h List.not_mem_nil

theorem groupOf_eq_nil {f : List Piece → Bool} (h : ps.head?.any (·.isGroup c) = false) :
    groupOf c f ps = [] := by
  cases ps with
  | nil => rfl
  | cons p ps => exact piece_eq_nil (by simp [inside?_eq_none (c := c) (p := p) h])

theorem block_eq_nil (h : ps.head?.any (·.isGroup '\x7b') = false) : block ps = [] := by
  cases ps with
  | nil => rfl
  | cons p ps =>
    have hp : p.isGroup '\x7b' = false := h
    exact piece_eq_nil (by simp [hp])

theorem behindSymbol_eq_none {cs : Text} (h : ps.head?.any (·.isMark c) = false) :
    behindSymbol (c :: cs) ps = none := by
  cases ps with
  | nil => cases cs <;> rfl
  | cons p ps =>
    have hp : p.isMark c = false := h
    cases cs with
    | nil => simp [behindSymbol, hp]
    | cons d cs => cases ps <;> simp [behindSymbol, hp]

theorem symbol_eq_nil {cs : Text} (h : ps.head?.any (·.isMark c) = false) :
    symbol (c :: cs) ps = [] := by
  rw [symbol, behindSymbol_eq_none h]
  rfl

end First

/-- Where no comma follows any way to read something, and nothing can go on from others than the one
that goes furthest, the list of it is read in one way only. -/
theorem IsFurthest.commas_bind {r : Reader α} {f : List α → Reader β} {x : Parse α} {z : Parse β}
    (h : IsFurthest r ps x) (hps : ps ≠ [])
    (hcomma : ∀ y ∈ r ps, y.rest.head?.any (·.isMark ',') = false)
    (hdead : ∀ y ∈ r ps, y.rest = x.rest ∨ ∀ as, f as y.rest = [])
    (hf : ReadsOnly (f [x.value]) x.rest z) :
    ReadsOnly (Reader.commas r >>= f) ps (behind x.weight z) := by
  refine (h.commas hcomma hps).bind (fun y hy hlength => ?_) hf
  obtain ⟨u, hu, -, hrest⟩ := exists_of_mem_commas hy
  rw [hrest (mark_eq_nil (hcomma u hu))] at hlength ⊢
  rcases hdead u hu with heq | hnil
  · rw [heq] at hlength
    exact absurd hlength (Nat.lt_irrefl _)
  · exact hnil y.value

/-! ### Words that begin a phrase -/

/-- A reader that begins with a word or a number begins with one of these words. -/
class BeginsWith (r : Reader α) (words : outParam (List Text)) : Prop where
  eq_nil_of_isPlain : ∀ {p : Piece}, p.IsPlain → p.isOneOf words = false → ∀ ps, r (p :: ps) = []

theorem BeginsWith.mono {r : Reader α} {words words' : List Text} (h : BeginsWith r words)
    (hwords : words ⊆ words') : BeginsWith r words' where
  eq_nil_of_isPlain hp hw := h.eq_nil_of_isPlain hp (isOneOf_of_subset hw hwords)

/-- A reader that does not begin with a word reads nothing where it stands. -/
theorem BeginsWith.eq_nil {r : Reader α} {words : List Text} [h : BeginsWith r words] {w : Text}
    (hp : p.word? = some w) (hw : w ∉ words) (ps : List Piece) : r (p :: ps) = [] :=
  h.eq_nil_of_isPlain (isPlain_of_word? hp) (by simpa [isOneOf_of_word? hp] using hw) ps

section Instances

variable {r s : Reader α} {words words' : List Text}

instance (c : Char) : BeginsWith (mark c) [] where
  eq_nil_of_isPlain h _ _ := mark_eq_nil (h.isMark c)

instance (words : List Text) : BeginsWith (word words) words where
  eq_nil_of_isPlain _ hw _ := word_eq_nil hw

instance (c : Char) (f : Readings → Option (Weighted α)) : BeginsWith (group c f) [] where
  eq_nil_of_isPlain h _ _ := group_eq_nil (h.isGroup c)

instance (c : Char) (f : List Piece → Bool) : BeginsWith (groupOf c f) [] where
  eq_nil_of_isPlain h _ _ := groupOf_eq_nil (h.isGroup c)

instance (c : Char) (cs : Text) : BeginsWith (symbol (c :: cs)) [] where
  eq_nil_of_isPlain h _ _ := symbol_eq_nil (h.isMark c)

instance beginsWith_bind [hr : BeginsWith r words] {f : α → Reader β} :
    BeginsWith (r >>= f) words where
  eq_nil_of_isPlain h hw ps := bind_eq_nil (hr.eq_nil_of_isPlain h hw ps)

instance [hr : BeginsWith r words] [hs : BeginsWith s words'] :
    BeginsWith (r <|> s) (words ++ words') where
  eq_nil_of_isPlain h hw ps := orElse_eq_nil
    (hr.eq_nil_of_isPlain h (isOneOf_of_subset hw (List.subset_append_left _ _)) ps)
    (hs.eq_nil_of_isPlain h (isOneOf_of_subset hw (List.subset_append_right _ _)) ps)

instance [hr : BeginsWith r words] {f : Option α → Reader β} [hf : ∀ a, BeginsWith (f a) words'] :
    BeginsWith (optional r >>= f) (words ++ words') where
  eq_nil_of_isPlain h hw ps := by
    rw [bind_of_eq (optional_of_eq_nil
      (hr.eq_nil_of_isPlain h (isOneOf_of_subset hw (List.subset_append_left _ _)) ps))]
    exact (hf none).eq_nil_of_isPlain h (isOneOf_of_subset hw (List.subset_append_right _ _)) ps

instance [hr : BeginsWith r words] (separator : Reader Unit) :
    BeginsWith (separated separator r) words where
  eq_nil_of_isPlain h hw ps := by
    rw [separated, List.length_cons, separatedUpTo]
    exact bind_eq_nil (hr.eq_nil_of_isPlain h hw ps)

end Instances

end Reader

open Reader

/-! ### Phrases -/

section Phrases

variable (g : Phrases)

instance : BeginsWith typeOfOperand ["decltype"] := by unfold typeOfOperand; infer_instance
instance : BeginsWith (announcedTemplate g) ["template"] := by
  unfold announcedTemplate
  infer_instance

instance : BeginsWith colons [] := by
  unfold colons
  exact inferInstanceAs (BeginsWith (symbol (':' :: [':'])) [])

instance : BeginsWith operatorName ["operator"] := by unfold operatorName; infer_instance
instance : BeginsWith destructorName [] := by unfold destructorName; infer_instance
instance : BeginsWith sharedNames [] := by unfold sharedNames; infer_instance
instance : BeginsWith pointerMark [] := by unfold pointerMark; infer_instance

instance : BeginsWith (symbol "&&") [] := inferInstanceAs (BeginsWith (symbol ('&' :: ['&'])) [])

instance : BeginsWith (symbol "...") [] :=
  inferInstanceAs (BeginsWith (symbol ('.' :: ['.', '.'])) [])

instance : BeginsWith referenceMark [] := by unfold referenceMark; infer_instance

instance : BeginsWith (taggedType g) ["struct", "union", "class", "enum"] := by
  unfold taggedType
  infer_instance

/-! ### Contents -/

instance : BeginsWith directive [] where
  eq_nil_of_isPlain h _ ps := piece_eq_nil (by rcases h with h | h <;> simp [h])

instance (f : Readings → Bool) : BeginsWith (conditional f) [] where
  eq_nil_of_isPlain {p} h _ ps := by
    cases p with
    | token => rfl
    | group => rcases h with h | h <;> cases h

instance : BeginsWith (typeDefinition g) ["__extension__", "typedef"] := by
  unfold typeDefinition
  exact .mono inferInstance (by simp)

instance : BeginsWith (linkage g) ["extern"] := by unfold linkage; infer_instance
instance : BeginsWith (aliasDeclaration g) ["using"] := by unfold aliasDeclaration; infer_instance
instance : BeginsWith (usingDeclaration g) ["using"] := by unfold usingDeclaration; infer_instance
instance : BeginsWith (assertion g) ["static_assert"] := by unfold assertion; infer_instance
instance : BeginsWith (concept g) ["concept"] := by unfold concept; infer_instance

instance : BeginsWith namespaceDefinition ["inline", "namespace"] := by
  unfold namespaceDefinition
  exact .mono inferInstance (by simp)

instance : BeginsWith (templateDeclaration g) ["template"] := by
  unfold templateDeclaration templateHead
  exact .mono inferInstance (by simp)

instance : BeginsWith (friendDeclaration g) ["constexpr", "friend"] := by
  unfold friendDeclaration
  exact .mono inferInstance (by simp)

end Phrases

end Bindery.Header
