import Bindery.Proofs.WordFront

/-!
# Reading base types

A word that has no other meaning where a type begins is read as a base type in one way only, and so
are the two words of a whole number without a sign.
-/

namespace Bindery.Header

open Reader Piece

variable {α : Type} {g : Phrases} {p q : Piece} {ps rest : List Piece} {w : Text}
  {reserved : List Text} {open_ : Bool}

/-! ### Modifiers -/

theorem takeAll_eq {take? : List Piece → Option (α × List Piece)} (h : take? ps = none) :
    takeAll take? ps = ([], ps) := by
  cases ps with
  | nil => rfl
  | cons p ps => rw [takeAll, List.length_cons, takeRepeatedly, h]

theorem takeAll_cons {take? : List Piece → Option (α × List Piece)} {a : α}
    (h : take? (p :: ps) = some (a, ps)) (hps : take? ps = none) :
    takeAll take? (p :: ps) = ([a], ps) := by
  have hrest := takeAll_eq hps
  rw [takeAll] at hrest
  rw [takeAll, List.length_cons, takeRepeatedly, h]
  simp only [hrest]

theorem dropAll_eq {drop? : List Piece → Option (List Piece)} (h : drop? ps = none) :
    dropAll drop? ps = ps := by
  rw [dropAll, takeAll_eq (by rw [h]; rfl)]

theorem dropAll_cons {drop? : List Piece → Option (List Piece)} (h : drop? (p :: ps) = some ps)
    (hps : drop? ps = none) : dropAll drop? (p :: ps) = ps := by
  rw [dropAll, takeAll_cons (a := ()) (by rw [h]; rfl) (by rw [hps]; rfl)]

theorem dropBracketAttributes?_eq_none (h : ps.head?.any (·.isGroup '[') = false) :
    dropBracketAttributes? ps = none := by
  unfold dropBracketAttributes?
  split
  · simp only [List.head?_cons, Option.any_some, Piece.isGroup] at h
    simp [h]
  · rfl

theorem dropAttribute?_eq_none (h : ps.head?.any (·.isOneOf Keyword.attributes) = false) :
    dropAttribute? ps = none := by
  match ps with
  | [] | [_] => rfl
  | p :: q :: ps =>
    have hp : p.isOneOf Keyword.attributes = false := h
    rw [dropAttribute?, hp]
    rfl

/-- No attribute is skipped where none begins. -/
theorem attributes_eq (h : ps.head?.any (·.isOneOf Keyword.attributes) = false) :
    attributes ps = [⟨(), 0, ps⟩] := by
  rw [attributes, skip, dropAll_eq (dropAttribute?_eq_none h)]

theorem dropOptionalAttribute_eq (h : ps.head?.any (·.isOneOf Keyword.attributes) = false) :
    skip (dropOptional dropAttribute?) ps = [⟨(), 0, ps⟩] := by
  rw [skip, dropOptional, dropAttribute?_eq_none h]
  rfl

/-- Pieces that no modifier of a declaration begins. -/
structure IsUnmodified (ps : List Piece) : Prop where
  /-- The first one is none of the words. -/
  word : ps.head?.any (·.isOneOf Keyword.modifiers) = false
  /-- It is no bracket that could be the first of two. -/
  group : ps.head?.any (·.isGroup '[') = false

namespace IsUnmodified

theorem isOneOf_eq_false {words : List Text} (h : IsUnmodified (p :: ps))
    (hwords : words ⊆ Keyword.modifiers) : p.isOneOf words = false :=
  isOneOf_of_subset h.word hwords

theorem attributes (h : IsUnmodified ps) :
    ps.head?.any (·.isOneOf Keyword.attributes) = false := by
  cases ps with
  | nil => rfl
  | cons p ps => exact h.isOneOf_eq_false fun w hw => by simp [Keyword.modifiers, hw]

theorem dropAttribute? (h : IsUnmodified ps) : Header.dropAttribute? ps = none :=
  dropAttribute?_eq_none h.attributes

theorem dropExport? (h : IsUnmodified ps) : Header.dropExport? ps = none := by
  match ps with
  | [] | [_] => rfl
  | p :: q :: ps =>
    rw [Header.dropExport?, h.isOneOf_eq_false (fun w hw => by simp [Keyword.modifiers, hw])]
    rfl

theorem dropAlignment? (h : IsUnmodified ps) : Header.dropAlignment? ps = none := by
  match ps with
  | [] | [_] => rfl
  | p :: q :: ps =>
    rw [Header.dropAlignment?, h.isOneOf_eq_false (fun w hw => by simp [Keyword.modifiers, hw])]
    rfl

theorem dropBracketAttributes? (h : IsUnmodified ps) : Header.dropBracketAttributes? ps = none :=
  dropBracketAttributes?_eq_none h.group

theorem takeQualifier? (h : IsUnmodified ps) : Header.takeQualifier? ps = none := by
  cases ps with
  | nil => rfl
  | cons p ps =>
    rw [Header.takeQualifier?, h.isOneOf_eq_false (fun w hw => by simp [Keyword.modifiers, hw]),
      h.dropAlignment?]
    rfl

theorem takeModifier? (h : IsUnmodified ps) : Header.takeModifier? ps = none := by
  cases ps with
  | nil => rfl
  | cons p ps =>
    rw [Header.takeModifier?, h.takeQualifier?, h.dropAttribute?, h.dropExport?,
      h.dropBracketAttributes?, h.isOneOf_eq_false (fun w hw => by simp [Keyword.modifiers, hw])]
    rfl

theorem modifiers_eq (h : IsUnmodified ps) : modifiers ps = [⟨[], 0, ps⟩] := by
  rw [modifiers, takeAll_eq h.takeModifier?]

theorem qualifiers_eq (h : IsUnmodified ps) : qualifiers ps = [⟨[], 0, ps⟩] := by
  rw [qualifiers, takeAll_eq h.takeQualifier?]

/-- The word that makes a type constant is a modifier. -/
theorem modifiers_const (h : IsUnmodified ps) (hp : p.word? = some ("const" : Text)) :
    modifiers (p :: ps) = [⟨[true], 0, ps⟩] := by
  have hqualifier : p.isOneOf Keyword.qualifiers = true := by
    rw [isOneOf_of_word? hp]
    with_unfolding_all decide
  have hconst : p.isOneOf ["const"] = true := by
    rw [isOneOf_of_word? hp]
    with_unfolding_all decide
  have htake : Header.takeModifier? (p :: ps) = some (true, ps) := by
    rw [Header.takeModifier?, Header.takeQualifier?, hqualifier, hconst]
    rfl
  rw [modifiers, takeAll_cons htake h.takeModifier?]

end IsUnmodified

theorem isUnmodified_of_word? (hp : p.word? = some w) (hw : w ∉ Keyword.modifiers) :
    IsUnmodified (p :: ps) :=
  ⟨by simpa [isOneOf_of_word? hp] using hw, isGroup_of_word? hp _⟩

/-! ### Names -/

theorem Phrases.upTo_succ (depth : Nat) :
    Phrases.upTo (depth + 1) = (Phrases.upTo depth).next := by
  rw [Phrases.upTo, Nat.repeat]
  rfl

theorem Phrases.next_expression (g : Phrases) (angled : Bool) :
    g.next.expression angled = settle (Header.expression g angled) := rfl

theorem Phrases.next_operand (g : Phrases) (angled : Bool) :
    g.next.operand angled = settle (Expression.operand g angled) := rfl

/-- A layer in which template arguments begin with an angle bracket. -/
def Phrases.IsAngled (g : Phrases) : Prop :=
  ∀ ps : List Piece, ps.head?.any (·.isMark '<') = false → g.templateArguments ps = []

/-- **Every layer is so.** -/
theorem isAngled_upTo (depth : Nat) : (Phrases.upTo depth).IsAngled := by
  intro ps hps
  cases depth with
  | zero => rfl
  | succ n =>
    have hmark : Header.templateArguments (Phrases.upTo n) ps = [] := by
      rw [Header.templateArguments]
      exact bind_eq_nil (mark_eq_nil hps)
    exact settle_eq_nil hmark

/-- Pieces that do not make what stands before them a scope or a template. -/
structure IsUnscoped (ps : List Piece) : Prop where
  /-- They do not begin with an angle bracket. -/
  angle : ps.head?.any (·.isMark '<') = false
  /-- They do not begin with a colon. -/
  colon : ps.head?.any (·.isMark ':') = false

theorem notAScope_eq (h : ps.head?.any (·.isMark ':') = false) : notAScope ps = [⟨(), 0, ps⟩] := by
  have hsymbol : behindSymbol (':' :: [':']) ps = none := behindSymbol_eq_none h
  rw [notAScope, check, show ("::" : Text) = [':', ':'] by with_unfolding_all decide, hsymbol]
  rfl

theorem colons_eq_nil (h : ps.head?.any (·.isMark ':') = false) : colons ps = [] := by
  rw [colons, show ("::" : Text) = [':', ':'] by with_unfolding_all decide]
  exact symbol_eq_nil h

theorem mayBeScope_eq_false (hp : p.isMark ':' = false) (hps : IsUnscoped ps) :
    mayBeScope (p :: ps) = false := by
  cases ps with
  | nil => rfl
  | cons q ps =>
    have hangle : q.isMark '<' = false := hps.angle
    have hcolon : q.isMark ':' = false := hps.colon
    rw [mayBeScope, hp, hcolon, hangle]
    rfl

/-- Where no name stands and no scope begins, no qualified name does. -/
theorem qualifiedName_eq_nil {last : Reader Unit} (hname : name reserved ps = [])
    (hwords : ps.head?.any (·.isOneOf ["decltype", "template"]) = false)
    (hcolon : ps.head?.any (·.isMark ':') = false) : qualifiedName g reserved last ps = [] := by
  have hone : ∀ u : Text, u ∈ (["decltype", "template"] : List Text) →
      ps.head?.any (·.isOneOf [u]) = false := fun u hu =>
    head_isOneOf_of_subset hwords fun v hv => List.mem_singleton.mp hv ▸ hu
  have hscope : (typeOfOperand <|> announcedTemplate g <|> pure ()) ps = [⟨(), 0, ps⟩] := by
    rw [orElse_of_left_eq_nil, orElse_of_left_eq_nil, pure_apply]
    · exact bind_eq_nil (word_eq_nil (hone _ (by simp)))
    · exact bind_eq_nil (word_eq_nil (hone _ (by simp)))
  rw [qualifiedName]
  refine orElse_eq_nil (bind_eq_nil hname) ?_
  rw [bind_of_eq hscope]
  exact bind_eq_nil (colons_eq_nil hcolon)

theorem optional_templateArguments_eq (hg : g.IsAngled) (h : IsUnscoped ps) :
    optional g.templateArguments ps = [⟨none, 0, ps⟩] :=
  optional_of_eq_nil (hg ps h.angle)

/-- A name that stands in no scope and has no template arguments. -/
theorem qualifiedName_cons {last : Reader Unit} (hg : g.IsAngled) (hp : p.word? = some w)
    (hw : w ∉ reserved) (hspecial : w ∉ (["decltype", "template"] : List Text))
    (hps : IsUnscoped ps) : qualifiedName g reserved last (p :: ps) = [⟨some w, 0, ps⟩] := by
  have hscope : (typeOfOperand <|> announcedTemplate g <|> pure ()) (p :: ps) =
      [⟨(), 0, p :: ps⟩] := by
    rw [orElse_of_left_eq_nil, orElse_of_left_eq_nil, pure_apply]
    · exact BeginsWith.eq_nil hp (fun hmem => hspecial (by simp_all)) ps
    · exact BeginsWith.eq_nil hp (fun hmem => hspecial (by simp_all)) ps
  rw [qualifiedName, orElse_of_right_eq_nil, bind_of_eq (name_cons hp hw ps),
    bind_of_eq (optional_templateArguments_eq hg hps),
    orElse_of_left_eq_nil (bind_eq_nil (colons_eq_nil hps.colon)),
    bind_of_eq (notAScope_eq hps.colon)]
  · rfl
  · rw [bind_of_eq hscope]
    exact bind_eq_nil (colons_eq_nil (isMark_of_word? hp ':'))

theorem namedType_cons (hg : g.IsAngled) (hp : p.word? = some w) (hw : w ∉ reserved)
    (hspecial : w ∉ (["decltype", "template"] : List Text)) (hps : IsUnscoped ps) :
    namedType g reserved (p :: ps) = [⟨(), 0, ps⟩] := by
  rw [namedType, bind_of_eq (qualifiedName_cons hg hp hw hspecial hps)]
  rfl

theorem namedType_eq_nil (hname : name reserved ps = [])
    (hwords : ps.head?.any (·.isOneOf ["decltype", "template"]) = false)
    (hcolon : ps.head?.any (·.isMark ':') = false) : namedType g reserved ps = [] := by
  rw [namedType]
  exact bind_eq_nil (qualifiedName_eq_nil hname hwords hcolon)

/-! ### Base types -/

/-- Words that begin a type and are none by themselves. -/
def typeLeads : List Text :=
  Keyword.sizes ++ Keyword.tags ++ (["typename", "auto", "decltype", "template"] : List Text)

theorem sizes_subset_typeLeads : Keyword.sizes ⊆ typeLeads := fun w hw => by simp [typeLeads, hw]

/-- Words that begin a type without a tag, besides names. -/
def plainLeads : List Text :=
  Keyword.sizes ++ Keyword.primitives ++
    (["typename", "auto", "decltype", "template"] : List Text)

/-- Where no name stands and no word begins a type without a tag, there is none. -/
theorem plainType_eq_nil (hname : name reserved ps = [])
    (hwords : ps.head?.any (·.isOneOf plainLeads) = false)
    (hcolon : ps.head?.any (·.isMark ':') = false) : plainType g reserved open_ ps = [] := by
  have hword : ∀ words : List Text, words ⊆ plainLeads → word words ps = [] :=
    fun words hsub => word_eq_nil (head_isOneOf_of_subset hwords hsub)
  have hprimitives : word Keyword.primitives ps = [] :=
    hword _ fun w hw => by simp [plainLeads, hw]
  have hsizes : sizedType.sizes open_ true ps = [] := by
    have hsub : Keyword.sizes ⊆ plainLeads := fun w hw => by simp [plainLeads, hw]
    have hsize := head_isOneOf_of_subset hwords hsub
    cases ps with
    | nil => simp [sizedType.sizes]
    | cons p ps =>
      have hp : p.isOneOf Keyword.sizes = false := hsize
      simp [sizedType.sizes, hp]
  have hsized : sizedType reserved open_ ps = [] :=
    orElse_eq_nil (bind_eq_nil hsizes)
      (bind_eq_nil (orElse_eq_nil hprimitives (bind_eq_nil hname)))
  have hnamed : namedType g reserved ps = [] :=
    namedType_eq_nil hname (head_isOneOf_of_subset hwords (by simp [plainLeads])) hcolon
  have htypename := hword ["typename"] (by simp [plainLeads])
  have hdecltype := hword ["decltype"] (by simp [plainLeads])
  exact orElse_eq_nil hsized (orElse_eq_nil hprimitives (orElse_eq_nil hnamed
    (orElse_eq_nil (bind_eq_nil htypename) (orElse_eq_nil (hword ["auto"] (by simp [plainLeads]))
      (orElse_eq_nil (bind_eq_nil hdecltype) (bind_eq_nil hdecltype))))))

theorem taggedType_eq_nil (h : ps.head?.any (·.isOneOf Keyword.tags) = false) :
    taggedType g ps = [] := by
  have hword : ∀ w ∈ Keyword.tags, word [w] ps = [] := fun w hw =>
    word_eq_nil (head_isOneOf_of_subset h fun u hu => List.mem_singleton.mp hu ▸ hw)
  exact orElse_eq_nil (bind_eq_nil (hword _ (by simp [Keyword.tags]))) (orElse_eq_nil
    (bind_eq_nil (hword _ (by simp [Keyword.tags]))) (orElse_eq_nil
      (bind_eq_nil (hword _ (by simp [Keyword.tags])))
      (bind_eq_nil (hword _ (by simp [Keyword.tags])))))

/-- Where no word begins a type, there is none. -/
theorem baseType_eq_nil (hname : name reserved ps = [])
    (hwords : ps.head?.any (·.isOneOf (Keyword.tags ++ plainLeads)) = false)
    (hcolon : ps.head?.any (·.isMark ':') = false) : baseType g reserved open_ ps = [] := by
  have htagged : taggedType g ps = [] :=
    taggedType_eq_nil (head_isOneOf_of_subset hwords (List.subset_append_left _ _))
  have hplain : plainType g reserved open_ ps = [] :=
    plainType_eq_nil hname (head_isOneOf_of_subset hwords (List.subset_append_right _ _)) hcolon
  exact settle_eq_nil (bind_eq_nil (List.map_eq_nil_iff.mpr (bind_eq_nil
    (orElse_eq_nil htagged (bind_eq_nil hplain)))))

/-- Pieces that do not go on with a base type before them. -/
structure EndsType (ps : List Piece) : Prop where
  /-- They begin with no angle bracket and no colon. -/
  unscoped : IsUnscoped ps
  /-- They begin with no modifier. -/
  unmodified : IsUnmodified ps
  /-- They begin with no word that sizes a type, and none that is a condition on one. -/
  word : ps.head?.any (·.isOneOf typeLeads) = false

/-- Brackets do not go on with a type, but for those that could be the first of two. -/
theorem endsType_of_isGroup {c : Char} (hp : p.isGroup c = true) (hc : c ≠ '[') (ps : List Piece) :
    EndsType (p :: ps) :=
  ⟨⟨isMark_of_isGroup hp _, isMark_of_isGroup hp _⟩, ⟨isOneOf_of_isGroup hp _,
    isGroup_of_isGroup hp hc⟩, isOneOf_of_isGroup hp _⟩

/-- A word that is a base type where some words have another meaning. -/
structure IsTypeWord (reserved : List Text) (w : Text) : Prop where
  /-- It does not begin a longer type. -/
  whole : w ∉ typeLeads
  /-- It is a type by itself, or it has no other meaning. -/
  known : w ∈ Keyword.primitives ∨ w ∉ reserved
  /-- Spelling it changes nothing. -/
  normal : Text.normalize w = w

theorem word_eq_nil_of_word? {words : List Text} (hp : p.word? = some w) (hw : w ∉ words) :
    word words (p :: ps) = [] :=
  BeginsWith.eq_nil hp hw ps

namespace EndsType

theorem head_of_subset {words : List Text} (h : EndsType ps) (hwords : words ⊆ typeLeads) :
    ps.head?.any (·.isOneOf words) = false :=
  head_isOneOf_of_subset h.word hwords

theorem takeWhile_sizes (h : EndsType ps) : ps.takeWhile (·.isOneOf Keyword.sizes) = [] := by
  have hhead := h.head_of_subset sizes_subset_typeLeads
  cases ps with
  | nil => rfl
  | cons p ps =>
    have hp : p.isOneOf Keyword.sizes = false := hhead
    rw [List.takeWhile_cons_of_neg (by simp [hp])]

theorem dropWhile_sizes (h : EndsType ps) : ps.dropWhile (·.isOneOf Keyword.sizes) = ps := by
  have happend := List.takeWhile_append_dropWhile (p := (·.isOneOf Keyword.sizes)) (l := ps)
  rwa [h.takeWhile_sizes] at happend

theorem sizes_true (h : EndsType ps) : sizedType.sizes open_ true ps = [] := by
  simp [sizedType.sizes, h.takeWhile_sizes]

theorem sizes_false (h : EndsType ps) :
    sizedType.sizes open_ false ps = [⟨(), 0, ps⟩] := by
  simp [sizedType.sizes, h.takeWhile_sizes, h.dropWhile_sizes]

end EndsType

namespace IsTypeWord

variable (h : IsTypeWord reserved w) (hp : p.word? = some w)

include h in
theorem not_mem {words : List Text} (hwords : words ⊆ typeLeads) : w ∉ words :=
  fun hmem => h.whole (hwords hmem)

include h hp in
/-- A word alone is no number type of several words. -/
theorem sizedType_eq_nil (hps : EndsType ps) : sizedType reserved open_ (p :: ps) = [] := by
  have hsize : p.isOneOf Keyword.sizes = false := by
    rw [isOneOf_of_word? hp, List.contains_eq_mem, decide_eq_false_iff_not]
    exact h.not_mem sizes_subset_typeLeads
  have hsizes : sizedType.sizes open_ true (p :: ps) = [] := by
    simp [sizedType.sizes, hsize]
  rw [sizedType]
  refine orElse_eq_nil (bind_eq_nil hsizes) ?_
  refine List.flatMap_eq_nil_iff.mpr fun x hx => ?_
  -- Whatever is taken for the type that is given a size, no size follows.
  have hrest : x.rest = ps := by
    rcases mem_orElse.mp hx with hx | hx
    · obtain ⟨q, hq⟩ := mem_piece hx
      exact (List.cons.inj hq).2.symm
    · obtain ⟨y, hy, z, hz, rfl⟩ := mem_bind.mp hx
      rw [List.mem_singleton.mp hz]
      obtain ⟨q, hq⟩ := mem_piece hy
      exact (List.cons.inj hq).2.symm
  rw [hrest]
  exact List.map_eq_nil_iff.mpr hps.sizes_true

include h hp in
theorem plainType_eq (hg : g.IsAngled) (hreserved : Keyword.primitives ⊆ reserved)
    (hps : EndsType ps) : plainType g reserved open_ (p :: ps) = [⟨(), 0, ps⟩] := by
  have hspecial : w ∉ (["decltype", "template"] : List Text) :=
    h.not_mem (by simp [typeLeads])
  have hwords : (p :: ps).head?.any (·.isOneOf ["decltype", "template"]) = false := by
    rw [List.head?_cons, Option.any_some, isOneOf_of_word? hp, List.contains_eq_mem,
      decide_eq_false_iff_not]
    exact hspecial
  have hrest : ∀ words : List Text, words ⊆ typeLeads → word words (p :: ps) = [] :=
    fun words hsub => word_eq_nil_of_word? hp (h.not_mem hsub)
  have hone : word Keyword.primitives (p :: ps) ++ namedType g reserved (p :: ps) =
      [⟨(), 0, ps⟩] := by
    by_cases hprimitive : w ∈ Keyword.primitives
    · have hnamed : namedType g reserved (p :: ps) = [] :=
        namedType_eq_nil (name_cons_of_mem hp (hreserved hprimitive) ps) hwords
          (isMark_of_word? hp ':')
      rw [hnamed, List.append_nil]
      refine word_cons ?_ ps
      rw [isOneOf_of_word? hp, List.contains_iff_mem]
      exact hprimitive
    · rw [word_eq_nil_of_word? hp hprimitive, List.nil_append]
      exact namedType_cons hg hp (h.known.resolve_left hprimitive) hspecial hps.unscoped
  rw [plainType]
  simp only [orElse_apply]
  rw [h.sizedType_eq_nil hp hps, List.nil_append, ← List.append_assoc, hone,
    bind_eq_nil (hrest ["typename"] (by simp [typeLeads])), hrest ["auto"] (by simp [typeLeads]),
    typeOfOperand, bind_eq_nil (hrest ["decltype"] (by simp [typeLeads])),
    bind_eq_nil (hrest ["decltype"] (by simp [typeLeads]))]
  rfl

end IsTypeWord

theorem spelling_of_word? (hp : p.word? = some w) (hw : Text.normalize w = w) :
    Piece.spelling [p] = w := by
  obtain ⟨n, t, rfl, -, rfl⟩ := exists_of_word? hp
  exact (congrArg Text.normalize (List.append_nil _)).trans hw

/-- A base type that is read in one way has the spelling of its pieces. -/
theorem baseType_of_eq {front : List Piece} {make : Text → BaseType} {v : Int}
    (h : (taggedType g <|> (do plainType g reserved open_; return BaseType.plain))
      (front ++ rest) = [⟨make, v, rest⟩])
    (hrest : rest.head?.any (·.isOneOf ["auto"]) = false) (hordered : AreOrdered (front ++ rest)) :
    baseType g reserved open_ (front ++ rest) = [⟨make (Piece.spelling front), v, rest⟩] := by
  have hbase : (do
      let base ← taggedType g <|> (do plainType g reserved open_; return BaseType.plain)
      (do word ["auto"]; return BaseType.plain) <|> pure base : Reader (Text → BaseType))
      (front ++ rest) = [⟨make, v, rest⟩] := by
    rw [bind_of_eq_weighted h, orElse_of_left_eq_nil (bind_eq_nil (word_eq_nil hrest)), pure_apply]
    simp
  refine settle_of_eq ?_
  rw [bind_of_eq_weighted (withSource_eq hbase hordered)]
  simp [pure_apply]

/-- **A word is read as a base type** in one way only. -/
theorem IsTypeWord.baseType_eq (h : IsTypeWord reserved w) (hp : p.word? = some w)
    (hg : g.IsAngled) (hreserved : Keyword.primitives ⊆ reserved) (hps : EndsType ps)
    (hordered : AreOrdered (p :: ps)) :
    baseType g reserved open_ (p :: ps) = [⟨.plain w, 0, ps⟩] := by
  have htagged : taggedType g (p :: ps) = [] :=
    BeginsWith.eq_nil hp (h.not_mem (by simp [typeLeads, Keyword.tags])) ps
  have hplain : (taggedType g <|> (do plainType g reserved open_; return BaseType.plain))
      ([p] ++ ps) = [⟨.plain, 0, ps⟩] := by
    change (taggedType g <|> (do plainType g reserved open_; return BaseType.plain))
      (p :: ps) = _
    rw [orElse_of_left_eq_nil htagged, bind_of_eq (h.plainType_eq hp hg hreserved hps),
      pure_apply]
  have hauto : ps.head?.any (·.isOneOf ["auto"]) = false := hps.head_of_subset (by simp [typeLeads])
  have hbase := baseType_of_eq hplain hauto hordered
  rwa [spelling_of_word? hp h.normal] at hbase

/-! ### Whole numbers without a sign -/

private theorem keywords_unsigned :
    Keyword.sizes.contains ("unsigned" : Text) = true ∧
    ("unsigned" : Text) ∉ Keyword.primitives ∧
    ("unsigned" : Text) ∉ (["struct", "union", "class", "enum"] : List Text) ∧
    (["decltype", "template"] : List Text).contains "unsigned" = false ∧
    ("unsigned" : Text) ∉ (["typename", "auto", "decltype"] : List Text) := by
  decide +kernel

private theorem keywords_int :
    Keyword.sizes.contains ("int" : Text) = false ∧
    Keyword.primitives.contains ("int" : Text) = true ∧
    ("int" : Text) ∈ Keyword.parameters ++ Keyword.declarators ∧
    Keyword.modifiers.contains ("int" : Text) = false ∧
    (["auto"] : List Text).contains "int" = false := by
  decide +kernel

section Unsigned

variable (hp : p.word? = some ("unsigned" : Text)) (hq : q.word? = some ("int" : Text))

include hp hq in
/-- Both words are taken, or the second one is left to be a name. -/
theorem sizedType_unsigned (hreserved : ("unsigned" : Text) ∈ reserved) (hps : EndsType ps) :
    sizedType reserved open_ (p :: q :: ps) =
      ⟨(), 0, ps⟩ :: if open_ then [⟨(), 0, q :: ps⟩] else [] := by
  have hpsize : p.isOneOf Keyword.sizes = true := by
    rw [isOneOf_of_word? hp, keywords_unsigned.1]
  have hqsize : q.isOneOf Keyword.sizes = false := by rw [isOneOf_of_word? hq, keywords_int.1]
  have hqprimitive : q.isOneOf Keyword.primitives = true := by
    rw [isOneOf_of_word? hq, keywords_int.2.1]
  have hqunmodified : IsUnmodified (q :: ps) :=
    ⟨(isOneOf_of_word? hq _).trans keywords_int.2.2.2.1, isGroup_of_word? hq _⟩
  have hsizes : sizedType.sizes open_ true (p :: q :: ps) = [⟨(), 0, q :: ps⟩] := by
    simp [sizedType.sizes, hpsize, hqsize]
  have hleft : sizedType.sizes open_ false (q :: ps) = [⟨(), 0, q :: ps⟩] := by
    simp [sizedType.sizes, hqsize]
  have hcore : sizedType.core (Keyword.parameters ++ Keyword.declarators) (q :: ps) =
      [⟨(), 0, ps⟩] := by
    rw [sizedType.core, orElse_of_right_eq_nil, word_cons hqprimitive]
    exact bind_eq_nil (name_cons_of_mem hq keywords_int.2.2.1 ps)
  have hnone : sizedType.core reserved (p :: q :: ps) = [] := by
    rw [sizedType.core]
    exact orElse_eq_nil (word_eq_nil_of_word? hp keywords_unsigned.2.1)
      (bind_eq_nil (name_cons_of_mem hp hreserved _))
  have hcheck : check (fun ps => open_ || !ps.head?.any (·.isOneOf Keyword.primitives)) (q :: ps) =
      if open_ then [⟨(), 0, q :: ps⟩] else [] := by
    simp [check, hqprimitive]
  rw [sizedType]
  refine (orElse_of_right_eq_nil (bind_eq_nil hnone)).trans ?_
  refine (bind_of_eq hsizes).trans ((bind_of_eq hqunmodified.qualifiers_eq).trans ?_)
  have hfirst : (sizedType.core (Keyword.parameters ++ Keyword.declarators) <|>
      check fun ps => open_ || !ps.head?.any (·.isOneOf Keyword.primitives)) (q :: ps) =
        ⟨(), 0, ps⟩ :: if open_ then [⟨(), 0, q :: ps⟩] else [] := by
    rw [orElse_apply, hcore, hcheck]
    rfl
  refine (congrArg (List.flatMap _) hfirst).trans ?_
  cases open_ <;> simp [hps.sizes_false, hleft]

include hp hq in
theorem plainType_unsigned (hreserved : ("unsigned" : Text) ∈ reserved) (hps : EndsType ps) :
    plainType g reserved open_ (p :: q :: ps) =
      ⟨(), 0, ps⟩ :: if open_ then [⟨(), 0, q :: ps⟩] else [] := by
  obtain ⟨-, hprimitive, -, hwords, hleads⟩ := keywords_unsigned
  have hrest : ∀ u ∈ (["typename", "auto", "decltype"] : List Text),
      word [u] (p :: q :: ps) = [] := fun u hu =>
    word_eq_nil_of_word? hp fun hmem => hleads (List.mem_singleton.mp hmem ▸ hu)
  have hnamed : namedType g reserved (p :: q :: ps) = [] :=
    namedType_eq_nil (name_cons_of_mem hp hreserved _) ((isOneOf_of_word? hp _).trans hwords)
      (isMark_of_word? hp ':')
  rw [plainType]
  simp only [orElse_apply]
  rw [sizedType_unsigned hp hq hreserved hps, word_eq_nil_of_word? hp hprimitive, hnamed,
    bind_eq_nil (hrest "typename" (by simp)), hrest "auto" (by simp), typeOfOperand,
    bind_eq_nil (hrest "decltype" (by simp)), bind_eq_nil (hrest "decltype" (by simp))]
  simp

include hp in
theorem taggedType_unsigned (ps : List Piece) : taggedType g (p :: ps) = [] :=
  BeginsWith.eq_nil hp keywords_unsigned.2.2.1 ps

include hp hq in
/-- The two words are read as a base type. -/
theorem baseType_unsigned (hreserved : ("unsigned" : Text) ∈ reserved) (hps : EndsType ps)
    (hordered : AreOrdered (p :: q :: ps)) :
    baseType g reserved false (p :: q :: ps) = [⟨.plain (Piece.spelling [p, q]), 0, ps⟩] := by
  have hplain : (taggedType g <|> (do plainType g reserved false; return BaseType.plain))
      ([p, q] ++ ps) = [⟨.plain, 0, ps⟩] :=
    (orElse_of_left_eq_nil (taggedType_unsigned hp _)).trans
      (bind_of_eq (plainType_unsigned hp hq hreserved hps))
  exact baseType_of_eq hplain (hps.head_of_subset (by simp [typeLeads])) hordered

include hp hq in
/-- Where the second word may be a name, they are read so too, and in no other way. -/
theorem isFurthest_baseType_unsigned [g.TakeFront] (hreserved : ("unsigned" : Text) ∈ reserved)
    (hps : EndsType ps) (hordered : AreOrdered (p :: q :: ps)) :
    IsFurthest (baseType g reserved true) (p :: q :: ps)
        ⟨.plain (Piece.spelling [p, q]), 0, ps⟩ ∧
      ∀ y ∈ baseType g reserved true (p :: q :: ps), y.rest = ps ∨ y.rest = q :: ps := by
  have hauto : ∀ rest, rest = ps ∨ rest = q :: ps →
      (do word ["auto"]; return BaseType.plain : Reader (Text → BaseType)) rest = [] := by
    rintro rest (rfl | rfl)
    · exact bind_eq_nil (word_eq_nil (hps.head_of_subset (by simp [typeLeads])))
    · exact bind_eq_nil (word_eq_nil ((isOneOf_of_word? hq _).trans keywords_int.2.2.2.2))
  have hplain : (taggedType g <|> (do plainType g reserved true; return BaseType.plain))
      (p :: q :: ps) = [⟨.plain, 0, ps⟩, ⟨.plain, 0, q :: ps⟩] :=
    (orElse_of_left_eq_nil (taggedType_unsigned hp _)).trans
      (congrArg (List.flatMap _) (plainType_unsigned hp hq hreserved hps))
  have hbase : (do
      let base ← taggedType g <|> (do plainType g reserved true; return BaseType.plain)
      (do word ["auto"]; return BaseType.plain) <|> pure base : Reader (Text → BaseType))
      (p :: q :: ps) = [⟨.plain, 0, ps⟩, ⟨.plain, 0, q :: ps⟩] := by
    refine (congrArg (List.flatMap _) hplain).trans ?_
    simp [orElse_apply, hauto, pure_apply]
  have hspelling : (p :: q :: ps).takeWhile (·.precedes (ps.head?.map place)) = [p, q] :=
    takeWhile_precedes (show AreOrdered ([p, q] ++ ps) from hordered)
  let reader : Reader BaseType := do
    let parts ← withSource (do
      let base ← taggedType g <|> (do plainType g reserved true; return BaseType.plain)
      (do word ["auto"]; return BaseType.plain) <|> pure base)
    return parts.1 (Piece.spelling parts.2)
  have hfront : TakesFront reader := by
    unfold reader
    infer_instance
  have hread : ∃ spelling, reader (p :: q :: ps) =
      [⟨.plain (Piece.spelling [p, q]), 0, ps⟩, ⟨.plain spelling, 0, q :: ps⟩] := by
    refine ⟨Piece.spelling ((p :: q :: ps).takeWhile (·.precedes ((q :: ps).head?.map place))),
      (congrArg (List.flatMap _) (congrArg (List.map _) hbase)).trans ?_⟩
    simp only [List.map_cons, List.flatMap_cons, Parse.place, hspelling]
    rfl
  obtain ⟨spelling, hread⟩ := hread
  have hleads : Leads reader (p :: q :: ps) ⟨.plain (Piece.spelling [p, q]), 0, ps⟩ := by
    refine ⟨by simp [hread], fun y hy => ?_⟩
    simp only [hread, List.mem_cons, List.not_mem_nil, or_false] at hy
    rcases hy with rfl | rfl
    · exact Or.inl rfl
    · exact Or.inr (Or.inl (Nat.lt_succ_self _))
  refine ⟨hleads.settle hordered, fun y hy => ?_⟩
  have hmem : y ∈ reader (p :: q :: ps) := mem_settle reader hy
  simp only [hread, List.mem_cons, List.not_mem_nil, or_false] at hmem
  rcases hmem with rfl | rfl
  · exact Or.inl rfl
  · exact Or.inr rfl

end Unsigned

end Bindery.Header
