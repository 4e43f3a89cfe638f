import Bindery.Proofs.Grouped
import Bindery.Proofs.Layout
import Bindery.Proofs.Letter
import Bindery.Proofs.OperandReading
import Bindery.Proofs.Spelling

/-!
# Pieces of canonical declarations

The tokens of each part of a canonical declaration are grouped as pieces that show what the part is:
a word for each name, a mark for each star, a pair of brackets around the size of an array. What the
readers make of a part follows from such pieces alone, wherever they stand.
-/

namespace Bindery.Canonical

open Header Piece

/-! ## Words without blanks -/

private theorem isNamePart_blankCodes : ∀ n ∈ Text.blankCodes,
    (if n < 128 then (Char.ofNat n).isAlphanum || Char.ofNat n == '_' || Char.ofNat n == '$'
      else Text.namePartIntervals.toList.any fun (first, last) => first ≤ n && n ≤ last) = false ∧
    (if n < 128 then (Char.ofNat n).isAlpha || Char.ofNat n == '_' || Char.ofNat n == '$'
      else Text.nameStartIntervals.toList.any fun (first, last) => first ≤ n && n ≤ last) =
        false := by
  decide +kernel

/-- No blank stands in an identifier. -/
theorem isBlank_eq_false_of_isName {w : Text} (h : isName w = true) :
    ∀ c ∈ w, Text.isBlank c = false := by
  have hpart : ∀ c, isNamePart c = true ∨ isNameStart c = true → Text.isBlank c = false := by
    intro c hc
    rw [Bool.eq_false_iff]
    intro hblank
    have hcode := isNamePart_blankCodes _ (Text.toNat_mem_blankCodes hblank)
    rw [Char.ofNat_toNat] at hcode
    rw [isNamePart, isNameStart, Text.inIntervals, Text.inIntervals, ← Array.any_toList,
      ← Array.any_toList] at hc
    exact hc.elim (fun hc => Bool.noConfusion (hc.symm.trans hcode.1))
      fun hc => Bool.noConfusion (hc.symm.trans hcode.2)
  cases w with
  | nil => cases h
  | cons c w =>
    rw [isName, Bool.and_eq_true, List.all_eq_true] at h
    exact List.forall_mem_cons.mpr ⟨hpart c (Or.inr h.1), fun d hd => hpart d (Or.inl (h.2 d hd))⟩

theorem normalize_of_isName {w : Text} (h : isName w = true) : Text.normalize w = w := by
  have hne : w ≠ [] := by
    rintro rfl
    cases h
  exact (Text.isNormal_of_forall hne (isBlank_eq_false_of_isName h)).normalize_eq

theorem normalize_ofNat (n : Nat) : Text.normalize (Text.ofNat n) = Text.ofNat n := by
  have hne : Text.ofNat n ≠ [] := Nat.toDigits_ne_nil
  have hdigits : ∀ c ∈ ("0123456789".toList : Text), Text.isBlank c = false := by decide
  exact (Text.isNormal_of_forall hne fun c hc =>
    hdigits c (mem_digits_of_isDigit (isDigit_of_mem_ofNat hc))).normalize_eq

/-! ## Parts -/

/-- Pieces that show a base type. -/
inductive BaseType.IsShown : BaseType → List Piece → Prop
  /-- Mostly one word. -/
  | word {b : BaseType} {p : Piece} : b ≠ .unsignedInt → p.word? = some b.text → IsShown b [p]
  /-- Whole numbers without a sign have two. -/
  | unsigned {p q : Piece} : p.word? = some ("unsigned" : Text) → q.word? = some ("int" : Text) →
      Piece.spelling [p, q] = BaseType.unsignedInt.text → IsShown .unsignedInt [p, q]

/-- Pieces that show whether a type is constant. -/
inductive IsConstShown : Bool → List Piece → Prop
  /-- Nothing says so. -/
  | no : IsConstShown false []
  /-- A word says so. -/
  | yes {p : Piece} : p.word? = some ("const" : Text) → IsConstShown true [p]

/-- Pieces that are so many stars. -/
structure AreStars (n : Nat) (ss : List Piece) : Prop where
  /-- There are so many of them. -/
  length_eq : ss.length = n
  /-- They are stars. -/
  isMark : ∀ s ∈ ss, s.isMark '*' = true

/-- Pieces that show the size of an array, if there is one. -/
inductive IsSizeShown : Option Nat → List Piece → Prop
  /-- There is none. -/
  | none : IsSizeShown none []
  /-- It stands in brackets. -/
  | some {n : Nat} {p : Piece} : IsBracketed p → p.readings.size = some ⟨Text.ofNat n, 0⟩ →
      p.readings.subscript = some ⟨(), 0⟩ → IsSizeShown (some n) [p]

/-- Pieces that show a parameter or a field. -/
inductive Variable.IsShown (v : Variable) : List Piece → Prop
  /-- Its type, its name and its size. -/
  | intro {cs bs ss tail : List Piece} {p : Piece} : IsConstShown v.isConst cs →
      v.base.IsShown bs → AreStars v.stars ss → p.word? = some v.name.text →
      IsSizeShown v.size tail → IsShown v (cs ++ (bs ++ (ss ++ p :: tail)))

/-- A piece that shows a value. -/
inductive Value.IsShown : Value → Piece → Prop
  /-- A number. -/
  | number {n : Nat} {p : Piece} : p.kind? = some .number →
      Piece.spelling [p] = Text.ofNat n → IsShown (.number n) p
  /-- A name. -/
  | named {name : Identifier} {p : Piece} : p.word? = some name.text → IsShown (.named name) p

/-- Pieces that show a member of an enumeration. -/
inductive Constant.IsShown : Constant → List Piece → Prop
  /-- A name alone. -/
  | bare {name : Identifier} {p : Piece} : p.word? = some name.text → IsShown ⟨name, none⟩ [p]
  /-- A name with a value. -/
  | valued {name : Identifier} {v : Value} {p q r : Piece} : p.word? = some name.text →
      q.isMark '=' = true → v.IsShown r → IsShown ⟨name, some v⟩ [p, q, r]

/-- Pieces that show the members of a list, with commas between them. -/
inductive AreListed {α : Type} (IsShown : α → List Piece → Prop) : α → List α → List Piece → Prop
  /-- One member. -/
  | single {a : α} {ps : List Piece} : IsShown a ps → AreListed IsShown a [] ps
  /-- One before others. -/
  | cons {a b : α} {as : List α} {ps rest : List Piece} {q : Piece} : IsShown a ps →
      q.isMark ',' = true → AreListed IsShown b as rest →
      AreListed IsShown a (b :: as) (ps ++ q :: rest)

/-- Pieces that show parameters. -/
inductive AreParams : List Variable → List Piece → Prop
  /-- A word says that there are none. -/
  | void {p : Piece} : p.word? = some ("void" : Text) → AreParams [] [p]
  /-- There are some. -/
  | listed {v : Variable} {vs : List Variable} {ps : List Piece} :
      AreListed Variable.IsShown v vs ps → AreParams (v :: vs) ps

/-- Pieces that show fields, each with a semicolon behind it. -/
inductive AreFields : List Variable → List Piece → Prop
  /-- There are none. -/
  | nil : AreFields [] []
  /-- One before others. -/
  | cons {v : Variable} {vs : List Variable} {ps rest : List Piece} {q : Piece} : v.IsShown ps →
      q.isMark ';' = true → AreFields vs rest → AreFields (v :: vs) (ps ++ q :: rest)

/-! ## The pieces of parts -/

variable {gap : Text}

theorem isLoose_ofWord (w : Text) : (Token.ofWord gap w).isLoose = true := rfl

theorem isLoose_ofNumber (n : Nat) : (Token.ofNumber gap n).isLoose = true := rfl

theorem isLoose_ofMark {c : Char} (h : c ∉ ['(', ')', '[', ']', '{', '}']) :
    (Token.ofMark gap c).isLoose = true := by
  simp only [List.mem_cons, List.not_mem_nil, or_false, not_or] at h
  have hdirective : (Token.ofMark gap c).isDirective = false := rfl
  simp [Token.isLoose, Grouping.opens, Grouping.closes, hdirective, h]

theorem encloses_of_mem {opening closing : Char} {gap' : Text}
    (h : (opening, closing) ∈ [('(', ')'), ('[', ']'), ('{', '}')]) :
    (Token.ofMark gap opening).Encloses (.ofMark gap' closing) := by
  have hdirective : (Token.ofMark gap' closing).isDirective = false := rfl
  simp only [List.mem_cons, Prod.mk.injEq, List.not_mem_nil, or_false] at h
  rcases h with ⟨rfl, rfl⟩ | ⟨rfl, rfl⟩ | ⟨rfl, rfl⟩ <;>
    exact ⟨by simp [Grouping.opens], by simp [Grouping.opens, hdirective],
      fun o ho => by simp [OpenGroup.closesWith, ho]⟩

section Enclosed

variable (n : Nat) (closing : Token) (inside : List Token) (ips : List Piece)

theorem isGroup_enclosed (c : Char) :
    (Piece.enclosed n (.ofMark gap c) closing inside ips).isGroup c = true := by
  simp [Piece.enclosed, isGroup]

theorem inside?_enclosed (c : Char) :
    (Piece.enclosed n (.ofMark gap c) closing inside ips).inside? c = some ips := by
  rw [Piece.enclosed, inside?, if_pos (by simp)]

theorem readings_enclosed_parenthesis :
    (Piece.enclosed n (.ofMark gap '(') closing inside ips).readings =
      parenthesesReadings (Phrases.upTo (inside.length + 2)) ips := by
  rw [Piece.enclosed, readings, readingsOf, if_pos (by simp)]

theorem params_enclosed :
    (Piece.enclosed n (.ofMark gap '(') closing inside ips).readings.params =
      parameters? (Phrases.upTo (inside.length + 1 + 1)) ips := by
  rw [readings_enclosed_parenthesis, parenthesesReadings]

theorem values_enclosed :
    (Piece.enclosed n (.ofMark gap '(') closing inside ips).readings.values =
      Reader.forget
        (Reader.list false (initialValue (Phrases.upTo (inside.length + 1 + 1))) ips) := by
  rw [readings_enclosed_parenthesis, parenthesesReadings]

theorem definition_enclosed :
    (Piece.enclosed n (.ofMark gap '(') closing inside ips).readings.definition =
      enclosed? (declarator (Phrases.upTo (inside.length + 1 + 1)) .definition) (-10) ips := by
  rw [readings_enclosed_parenthesis, parenthesesReadings]

theorem readings_enclosed_bracket :
    (Piece.enclosed n (.ofMark gap '[') closing inside ips).readings =
      bracketReadings (Phrases.upTo (inside.length + 2)) ips := by
  rw [Piece.enclosed, readings, readingsOf, if_neg (by simp), if_pos (by simp)]

theorem readings_enclosed_brace :
    (Piece.enclosed n (.ofMark gap '{') closing inside ips).readings =
      braceReadings (Phrases.upTo (inside.length + 2)) ips := by
  rw [Piece.enclosed, readings, readingsOf, if_neg (by simp), if_neg (by simp),
    if_pos (by simp)]

theorem members_enclosed :
    (Piece.enclosed n (.ofMark gap '{') closing inside ips).readings.members =
      members? (Phrases.upTo (inside.length + 1 + 1)) ips := by
  rw [readings_enclosed_brace, braceReadings]

theorem enumerators_enclosed :
    (Piece.enclosed n (.ofMark gap '{') closing inside ips).readings.enumerators =
      enumerators? (Phrases.upTo (inside.length + 1 + 1)) ips := by
  rw [readings_enclosed_brace, braceReadings]

end Enclosed

theorem BaseType.exists_isShown (b : BaseType) (gap : Text) (n : Nat) :
    ∃ ps, AreGrouped n (b.tokens gap) ps ∧ b.IsShown ps := by
  have hloose : ∀ t ∈ b.tokens gap, t.isLoose = true := by
    intro t ht
    cases b <;> simp only [tokens, List.mem_cons, List.not_mem_nil, or_false] at ht <;>
      first
        | exact ht ▸ isLoose_ofWord _
        | exact ht.elim (· ▸ isLoose_ofWord _) (· ▸ isLoose_ofWord _)
  refine ⟨_, areGrouped_singles hloose n, ?_⟩
  cases b with
  | unsignedInt =>
    have hspelling : Text.normalize (("unsigned" : Text) ++ ([' '] ++ ("int" : Text) ++ [])) =
        BaseType.unsignedInt.text := by with_unfolding_all decide
    exact .unsigned rfl rfl hspelling
  | _ => exact .word (by simp) rfl

theorem exists_areStars (k n : Nat) : ∃ ss, AreGrouped n (starTokens k) ss ∧ AreStars k ss := by
  induction k generalizing n with
  | zero => exact ⟨[], .nil, rfl, by simp⟩
  | succ k ih =>
    obtain ⟨ss, hgrouped, hss⟩ := ih (n + 1)
    refine ⟨.token n (.ofMark [] '*') :: ss, .token (isLoose_ofMark (by decide)) hgrouped, ?_, ?_⟩
    · rw [List.length_cons, hss.length_eq]
    · exact List.forall_mem_cons.mpr ⟨Token.isMark_ofMark _, hss.isMark⟩

theorem Variable.exists_isSizeShown (v : Variable) (n : Nat) :
    ∃ tail, AreGrouped n v.sizeTokens tail ∧ IsSizeShown v.size tail := by
  rw [sizeTokens]
  cases v.size with
  | none => exact ⟨[], .nil, .none⟩
  | some k =>
    have hnumber : (Piece.token (n + 1) (.ofNumber [] k)).kind? = some .number := rfl
    have hspelling : Piece.spelling [.token (n + 1) (.ofNumber [] k)] = Text.ofNat k :=
      (congrArg Text.normalize (List.append_nil _)).trans (normalize_ofNat k)
    have hreadings : (Piece.enclosed n (.ofMark [] '[') (.ofMark [] ']') [.ofNumber [] k]
        [.token (n + 1) (.ofNumber [] k)]).readings =
          bracketReadings (Phrases.upTo (2 + 1)) [.token (n + 1) (.ofNumber [] k)] :=
      readings_enclosed_bracket n _ _ _
    have hsize := sizeOf?_number hnumber 2
    rw [hspelling] at hsize
    refine ⟨_, .group (encloses_of_mem (by decide)) (.token (isLoose_ofNumber k) .nil) .nil,
      .some ⟨isGroup_enclosed _ _ _ _ _, _, _, inside?_enclosed _ _ _ _ _⟩ ?_ ?_⟩
    · simpa only [hreadings, bracketReadings] using hsize
    · simp only [hreadings, bracketReadings, arguments_number hnumber 2, Reader.forget,
        Option.map_some]

theorem Variable.exists_isShown (v : Variable) (gap : Text) (n : Nat) :
    ∃ ps, AreGrouped n (v.tokens gap) ps ∧ v.IsShown ps := by
  have hbase : ∀ gap n, ∃ bs, AreGrouped n (v.base.tokens gap) bs ∧ v.base.IsShown bs :=
    v.base.exists_isShown
  have htype : ∃ cs bs, AreGrouped n (if v.isConst then .ofWord gap "const" :: v.base.tokens [' ']
      else v.base.tokens gap) (cs ++ bs) ∧ IsConstShown v.isConst cs ∧ v.base.IsShown bs := by
    cases v.isConst with
    | false =>
      obtain ⟨bs, hgrouped, hbs⟩ := hbase gap n
      exact ⟨[], bs, hgrouped, .no, hbs⟩
    | true =>
      obtain ⟨bs, hgrouped, hbs⟩ := hbase [' '] (n + 1)
      exact ⟨[.token n (.ofWord gap "const")], bs, .token (isLoose_ofWord _) hgrouped, .yes rfl,
        hbs⟩
  obtain ⟨cs, bs, htypes, hcs, hbs⟩ := htype
  obtain ⟨ss, hstars, hss⟩ := exists_areStars v.stars (n + (if v.isConst then
    .ofWord gap "const" :: v.base.tokens [' '] else v.base.tokens gap).length)
  obtain ⟨tail, hsize, htail⟩ := v.exists_isSizeShown (n + (v.typeTokens gap).length + 1)
  refine ⟨cs ++ (bs ++ (ss ++ .token (n + (v.typeTokens gap).length)
    (.ofWord [' '] v.name.text) :: tail)), ?_, .intro hcs hbs hss rfl htail⟩
  have htyped : AreGrouped n (v.typeTokens gap) (cs ++ bs ++ ss) := htypes.append hstars
  have hgrouped := htyped.append (.token (t := .ofWord [' '] v.name.text) (isLoose_ofWord _) hsize)
  rw [tokens]
  simpa only [List.append_assoc] using hgrouped

theorem exists_areListed {α : Type} {tokens : Text → α → List Token}
    {IsShown : α → List Piece → Prop}
    (h : ∀ a gap n, ∃ ps, AreGrouped n (tokens gap a) ps ∧ IsShown a ps) (gap : Text) (n : Nat)
    (a : α) (as : List α) :
    ∃ ps, AreGrouped n (listedTokens tokens gap a as) ps ∧ AreListed IsShown a as ps := by
  induction as generalizing gap n a with
  | nil =>
    obtain ⟨ps, hgrouped, hps⟩ := h a gap n
    exact ⟨ps, by rwa [listedTokens, List.flatMap_nil, List.append_nil], .single hps⟩
  | cons b as ih =>
    obtain ⟨ps, hgrouped, hps⟩ := h a gap n
    obtain ⟨rest, hrest, hlisted⟩ := ih [' '] (n + (tokens gap a).length + 1) b
    refine ⟨ps ++ .token (n + (tokens gap a).length) (.ofMark [] ',') :: rest, ?_,
      .cons hps (Token.isMark_ofMark _) hlisted⟩
    rw [listedTokens, List.flatMap_cons, List.cons_append]
    exact hgrouped.append (.token (isLoose_ofMark (by decide)) hrest)

theorem exists_areParams (vs : List Variable) (n : Nat) :
    ∃ ps, AreGrouped n (paramTokens vs) ps ∧ AreParams vs ps := by
  cases vs with
  | nil => exact ⟨_, .token (isLoose_ofWord _) .nil, .void rfl⟩
  | cons v vs =>
    obtain ⟨ps, hgrouped, hps⟩ := exists_areListed Variable.exists_isShown [] n v vs
    exact ⟨ps, hgrouped, .listed hps⟩

theorem exists_areFields (vs : List Variable) (n : Nat) :
    ∃ ps, AreGrouped n (vs.flatMap fun v => v.tokens [' '] ++ [.ofMark [] ';']) ps ∧
      AreFields vs ps := by
  induction vs generalizing n with
  | nil => exact ⟨[], .nil, .nil⟩
  | cons v vs ih =>
    obtain ⟨ps, hgrouped, hps⟩ := v.exists_isShown [' '] n
    obtain ⟨rest, hrest, hfields⟩ := ih (n + (v.tokens [' ']).length + 1)
    refine ⟨ps ++ .token (n + (v.tokens [' ']).length) (.ofMark [] ';') :: rest, ?_,
      .cons hps (Token.isMark_ofMark _) hfields⟩
    rw [List.flatMap_cons, List.append_assoc, List.singleton_append]
    exact hgrouped.append (.token (isLoose_ofMark (by decide)) hrest)

theorem Constant.exists_isShown (c : Constant) (gap : Text) (n : Nat) :
    ∃ ps, AreGrouped n (c.tokens gap) ps ∧ c.IsShown ps := by
  obtain ⟨name, value⟩ := c
  cases value with
  | none => exact ⟨_, .token (isLoose_ofWord _) .nil, .bare rfl⟩
  | some v =>
    have hvalue : v.token.isLoose = true ∧ ∀ n, v.IsShown (.token n v.token) := by
      cases v with
      | number k =>
        refine ⟨isLoose_ofNumber k, fun n => .number rfl ?_⟩
        exact (congrArg Text.normalize (List.append_nil _)).trans (normalize_ofNat k)
      | named name => exact ⟨isLoose_ofWord _, fun n => .named rfl⟩
    exact ⟨_, .token (isLoose_ofWord _) (.token (isLoose_ofMark (by decide))
      (.token hvalue.1 .nil)), .valued rfl (Token.isMark_ofMark _) (hvalue.2 _)⟩

end Bindery.Canonical
