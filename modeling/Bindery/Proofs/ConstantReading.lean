import Bindery.Proofs.ParameterReading

/-!
# Reading the members of an enumeration

The pieces between the braces of an enumeration are read as its members. A value is a number or a
word that is a value or has no other meaning; it is given in its spelling.
-/

namespace Bindery.Canonical

open Header Reader Piece

variable {c : Constant} {cs : List Constant} {p q : Piece} {ps front tail rest : List Piece}

/-! ## Values -/

/-- A value is an operand by itself. -/
theorem Value.IsShown.isOperand {v : Value} (h : v.IsShown p)
    (hv : ∀ name, v = .named name → name.avoids typesAndOperators = true) : IsOperand p := by
  cases h with
  | number hkind => exact .ofNumber hkind
  | @named name _ hp =>
    have havoids := hv name rfl
    by_cases hvalue : name.text ∈ Keyword.values
    · exact .ofValue hp hvalue (name.not_mem havoids covers_valueless)
    · have hknown : name.avoids Keyword.values = true := by simpa [Identifier.avoids] using hvalue
      exact .ofName hp (name.not_mem (Identifier.avoids_append havoids hknown) covers_operands)

theorem Value.IsShown.isPlain {v : Value} (h : v.IsShown p) : p.IsPlain := by
  cases h with
  | number hkind => exact Or.inr hkind
  | named hp => exact isPlain_of_word? hp

theorem Value.IsShown.spelling_eq {v : Value} (h : v.IsShown p) : Piece.spelling [p] = v.text := by
  cases h with
  | number _ hspelling => exact hspelling
  | @named name _ hp => exact spelling_of_word? hp (normalize_of_isName name.isName)

/-! ## Members -/

/-- No piece of a member ends it. -/
theorem Constant.IsShown.isMark_comma (h : c.IsShown ps) : ∀ p ∈ ps, p.isMark ',' = false := by
  cases h with
  | bare hp => exact List.forall_mem_singleton.mpr (isMark_of_word? hp _)
  | valued hp hq hr =>
    exact List.forall_mem_cons.mpr ⟨isMark_of_word? hp _, List.forall_mem_cons.mpr
      ⟨isMark_of_isMark hq (by decide), List.forall_mem_singleton.mpr (hr.isPlain.isMark _)⟩⟩

/-- It begins with a word. -/
theorem Constant.IsShown.exists_eq_cons (h : c.IsShown ps) :
    ∃ p qs, ps = p :: qs ∧ p.word? = some c.name.text := by
  cases h with
  | bare hp => exact ⟨_, _, rfl, hp⟩
  | valued hp => exact ⟨_, _, rfl, hp⟩

instance {g : Phrases} [g.TakeFront] : TakesFront (Header.enumerator g) := by
  unfold Header.enumerator
  infer_instance

/-- The value of a member of an enumeration, behind its name. -/
def enumeratorValue (g : Phrases) (name : Text) : Reader Enumerator := do
  mark '='
  let (_, ps) ← withSource (g.expression false)
  return ⟨name, some (Piece.spelling ps)⟩

theorem enumerator_eq (g : Phrases) :
    Header.enumerator g = settle (Header.Reader.name [] >>= fun n =>
      enumeratorValue g n <|> pure ⟨n, none⟩) := rfl

section Member

variable (h : c.IsShown front) (hc : c.isOrdinary = true) (depth : Nat)

include h hc

/-- A member is read whole, or its name alone is. -/
theorem Constant.IsShown.isFurthest_enumerator (htail : EndsPhrase tail)
    (hordered : AreOrdered (front ++ tail)) :
    IsFurthest (Header.enumerator (Phrases.upTo (depth + 1))) (front ++ tail)
      ⟨c.enumerator, 0, tail⟩ := by
  cases h with
  | @bare name p hp =>
    have hequals : mark '=' tail = [] := mark_eq_nil (htail.isMark (by decide) (by decide))
    refine (readsOnly_of_eq (settle_of_eq ?_)).isFurthest
    rw [List.singleton_append, bind_of_eq (name_cons hp List.not_mem_nil tail),
      orElse_of_left_eq_nil (bind_eq_nil hequals), pure_apply]
    rfl
  | @valued name v p q r hp hq hr =>
    have hoperand : IsOperand r := hr.isOperand fun name hname => by
      simpa only [Constant.isOrdinary, hname] using hc
    obtain ⟨form, hform⟩ := hoperand.exists_upTo_expression_eq htail depth
    rw [← List.singleton_append] at hform
    have hvalue : withSource ((Phrases.upTo (depth + 1)).expression false) ([r] ++ tail) =
        [⟨(form, [r]), 0, tail⟩] := by
      have hbehind : AreOrdered ([r] ++ tail) :=
        hordered.sublist ((List.sublist_cons_self _ _).trans (List.sublist_cons_self _ _))
      exact withSource_eq hform hbehind
    let value := enumeratorValue (Phrases.upTo (depth + 1))
    have hgiven : value name.text (q :: r :: tail) = [⟨⟨name.text, some v.text⟩, 0, tail⟩] := by
      rw [← hr.spelling_eq]
      exact (bind_of_eq (mark_cons hq _)).trans (bind_of_eq hvalue)
    have hmember : IsFurthest (value name.text <|> pure ⟨name.text, none⟩) (q :: r :: tail)
        ⟨⟨name.text, some v.text⟩, 0, tail⟩ :=
      (readsOnly_of_eq hgiven).isFurthest.orElse_left fun y hy => by
        obtain rfl := mem_pure.mp hy
        have hshorter : tail.length < (q :: r :: tail).length := by
          rw [List.length_cons, List.length_cons]
          omega
        exact Or.inr hshorter
    have hname := readsOnly_of_eq (name_cons hp List.not_mem_nil (q :: r :: tail))
    have hread : IsFurthest (Header.Reader.name [] >>= fun n => value n <|> pure ⟨n, none⟩)
        (p :: q :: r :: tail) ⟨⟨name.text, some v.text⟩, 0, tail⟩ :=
      hname.bind (f := fun n => value n <|> pure ⟨n, none⟩) hmember
    have hfront : TakesFront (Header.Reader.name [] >>= fun n => value n <|> pure ⟨n, none⟩) := by
      unfold value enumeratorValue
      infer_instance
    rw [enumerator_eq]
    exact hread.settle hordered

/-- A member of an enumeration is read with the comma behind it. -/
theorem Constant.IsShown.readsOnly_enumerationEntry (htail : EndsMember tail rest)
    (hordered : AreOrdered (front ++ tail)) :
    ReadsOnly (enumerationEntry (Phrases.upTo (depth + 1))) (front ++ tail)
      ⟨some c.enumerator, 0, rest⟩ := by
  have hends := endsPhrase_of_endsMember htail
  have hread := h.isFurthest_enumerator hc depth hends hordered
  have hend : commaOrEnd tail = [⟨(), 0, rest⟩] := by
    cases htail with
    | last => rfl
    | comma hq hne =>
      rw [commaOrEnd, orElse_of_right_eq_nil (check_eq_nil (by simp)), mark_cons hq]
  let given (e : Enumerator) : Reader (Option Enumerator) := do
    commaOrEnd
    return some e
  have hgiven : given c.enumerator tail = [⟨some c.enumerator, 0, rest⟩] := bind_of_eq hend
  have hmember : ReadsOnly (Header.enumerator (Phrases.upTo (depth + 1)) >>= given) (front ++ tail)
      ⟨some c.enumerator, 0, rest⟩ := by
    refine hread.bind (fun y hy hlength => ?_) (readsOnly_of_eq hgiven)
    -- What is left otherwise begins with a piece of the member.
    obtain ⟨x, hx, xs, hxs⟩ := exists_mem_of_length_lt (TakesFront.suffix hy) hlength
    have hcomma : mark ',' (x :: xs) = [] := mark_eq_nil (h.isMark_comma x hx)
    rw [hxs]
    exact bind_eq_nil (orElse_eq_nil hcomma (check_eq_nil rfl))
  obtain ⟨p, qs, rfl, hp⟩ := h.exists_eq_cons
  have hothers : ((do
        directive
        commaOrEnd
        return none)
      <|> do
        conditional (·.enumerators.isSome) <|> do
          piece fun p => p.conditional?.bind fun inside =>
            if (Piece.branches inside).all fun part =>
                (all (Header.enumerator (Phrases.upTo (depth + 1))) part).isSome then some ()
            else none
          check List.isEmpty
        return none : Reader (Option Enumerator)) (p :: qs ++ tail) = [] := by
    have hconditional : p.conditional? = none := by
      obtain ⟨n, t, rfl, -⟩ := exists_of_word? hp
      rfl
    have hdirective : directive (p :: (qs ++ tail)) = [] := BeginsWith.eq_nil hp List.not_mem_nil _
    have hpart : conditional (·.enumerators.isSome) (p :: (qs ++ tail)) = [] :=
      BeginsWith.eq_nil hp List.not_mem_nil _
    exact orElse_eq_nil (bind_eq_nil hdirective) (bind_eq_nil (orElse_eq_nil hpart
      (bind_eq_nil (piece_eq_nil (by simp [hconditional])))))
  exact hmember.of_eq (orElse_of_right_eq_nil hothers)

end Member

/-- **Members** between braces are read as the members of an enumeration. -/
theorem AreListed.exists_enumerators?_eq (h : AreListed Constant.IsShown c cs ps)
    (hcs : (c :: cs).all Constant.isOrdinary = true) (hordered : AreOrdered ps) (depth : Nat) :
    ∃ w, enumerators? (Phrases.upTo (depth + 1)) ps =
      some ⟨(c :: cs).map Constant.enumerator, w⟩ := by
  have hne : ∀ {c : Constant} {front}, c.IsShown front → front ≠ [] := by
    intro c front hfront
    obtain ⟨p, qs, rfl, -⟩ := hfront.exists_eq_cons
    exact List.cons_ne_nil _ _
  obtain ⟨w, -, hrow⟩ := h.exists_isRow (fun c => some c.enumerator) hne
    (fun b hb front tail rest hfront htail hrest => ⟨0, Int.le_refl 0,
      hfront.readsOnly_enumerationEntry (List.all_eq_true.mp hcs b hb) depth htail hrest⟩) hordered
  have hvalues : ((c :: cs).map fun c => some c.enumerator).filterMap id =
      (c :: cs).map Constant.enumerator := by
    simp [List.filterMap_map]
  refine ⟨w, ?_⟩
  rw [enumerators?, hrow.all hordered, Option.map_some, hvalues]

/-! ## Groups -/

/-- The braces around the members of an enumeration. -/
structure IsEnumerationGroup (cs : List Constant) (p : Piece) : Prop where
  /-- They are braces. -/
  group : p.isGroup '{' = true
  /-- They are read as members. -/
  enumerators : ∃ w, p.readings.enumerators = some ⟨cs.map Constant.enumerator, w⟩

theorem exists_isEnumerationGroup (hcs : (c :: cs).all Constant.isOrdinary = true)
    (gap gap' : Text) (n : Nat) :
    ∃ ips, AreGrouped (n + 1) (listedTokens Constant.tokens [' '] c cs) ips ∧
      IsEnumerationGroup (c :: cs) (.enclosed n (.ofMark gap '{') (.ofMark gap' '}')
        (listedTokens Constant.tokens [' '] c cs) ips) := by
  obtain ⟨ips, hgrouped, hlisted⟩ :=
    exists_areListed Constant.exists_isShown [' '] (n + 1) c cs
  obtain ⟨w, hread⟩ := hlisted.exists_enumerators?_eq hcs hgrouped.areOrdered
    ((listedTokens Constant.tokens [' '] c cs).length + 1)
  exact ⟨ips, hgrouped, isGroup_enclosed _ _ _ _ _, w, (enumerators_enclosed _ _ _ _).trans hread⟩

end Bindery.Canonical
