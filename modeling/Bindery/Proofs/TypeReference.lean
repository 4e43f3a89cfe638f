import Bindery.Documentation.Markup
import Mathlib.Data.List.Basic

/-!
# References to types

The last pass over documentation takes the library's beginning from every type that is referred to.
Where that happens is said place by place here, without a reading order: no reference overlaps
another one, so the pass finds all of them.
-/

namespace Bindery.Markup

/-- Whether a reference to a type begins at a place of a text: the library's beginning at the start
of a word, with a capital ASCII letter behind it. -/
def beginsReference (t : Text) (i : Nat) : Bool :=
  !(t.take i).getLast?.any Text.isWord && t[i]? == some 's' && t[i + 1]? == some 'f' &&
    t[i + 2]?.any Char.isUpper

/-- Whether one of the two letters that a reference begins with stands at a place. -/
def liesInLead (t : Text) (i : Nat) : Bool :=
  beginsReference t i || (i != 0 && beginsReference t (i - 1))

/-- A text in which all references lack these letters. -/
def withoutLeads (t : Text) : Text :=
  (List.range t.length).filterMap fun i => if liesInLead t i then none else t[i]?

section References

variable {before t : Text} {c : Char}

/-- What is seen of a reference from the place where it begins. -/
theorem beginsReference_append (before : Text) (c : Char) (t : Text) :
    beginsReference (before ++ c :: t) before.length =
      (!before.getLast?.any Text.isWord && some c == some 's' && t[0]? == some 'f' &&
        t[1]?.any Char.isUpper) := by
  have hafter : ∀ k, (before ++ c :: t)[before.length + k]? = (c :: t)[k]? := by
    intro k
    rw [List.getElem?_append_right (Nat.le_add_right _ _), Nat.add_sub_cancel_left]
  have hat : (before ++ c :: t)[before.length]? = some c := hafter 0
  rw [beginsReference, List.take_left, hat, hafter 1, hafter 2]
  rfl

/-- At a place of a text, the pass recognises exactly the references that begin there. -/
theorem referenceRule_eq (before : Text) (c : Char) (t : Text) :
    referenceRule before.getLast? c t =
      if beginsReference (before ++ c :: t) before.length then some ⟨[], 1⟩ else none := by
  have hlead : libraryLead = ['s', 'f'] := by with_unfolding_all decide
  rw [beginsReference_append, referenceRule, hlead]
  cases hword : before.getLast?.any Text.isWord with
  | true => rfl
  | false =>
    rw [if_neg Bool.false_ne_true]
    by_cases hc : c = 's'
    · subst hc
      match t with
      | [] => rfl
      | [d] =>
        by_cases hd : d = 'f'
        · subst hd
          rfl
        · simp [Text.after?, Ne.symm hd]
      | d :: e :: t =>
        by_cases hd : d = 'f'
        · subst hd
          simp [Text.after?]
        · simp [Text.after?, Ne.symm hd, hd]
    · have hbehind : Text.after? ['s', 'f'] (c :: t) = none := by
        simp [Text.after?, Ne.symm hc]
      have hdiffer : (some c == some 's') = false := by simpa using hc
      rw [hbehind, hdiffer]
      rfl

/-- A reference does not begin at the second letter of another one. -/
theorem beginsReference_succ {i : Nat} (h : beginsReference t i = true) :
    beginsReference t (i + 1) = false := by
  simp only [beginsReference, Bool.and_eq_true, beq_iff_eq] at h
  have hsecond : (t[i + 1]? == some 's') = false := by
    rw [h.1.2]
    decide
  rw [beginsReference, hsecond, Bool.and_false, Bool.false_and, Bool.false_and]

/-- From any place on, the pass keeps the characters that lie in no lead. The text before that place
ends with the first letter of a reference exactly when the next character is skipped. -/
theorem rewriteFrom_referenceRule (before t : Text) :
    Text.rewriteFrom referenceRule before.getLast?
        (before.length != 0 && beginsReference (before ++ t) (before.length - 1)).toNat t =
      (List.range' before.length t.length).filterMap fun i =>
        if liesInLead (before ++ t) i then none else (before ++ t)[i]? := by
  induction t generalizing before with
  | nil => rfl
  | cons c t ih =>
    have hbehind := ih (before ++ [c])
    rw [List.append_assoc, List.singleton_append, List.length_append, List.length_singleton,
      List.getLast?_concat, Nat.add_sub_cancel] at hbehind
    have hne : (before.length + 1 != 0) = true := rfl
    rw [hne, Bool.true_and] at hbehind
    have hget : (before ++ c :: t)[before.length]? = some c := by
      rw [List.getElem?_append_right (Nat.le_refl _), Nat.sub_self, List.getElem?_cons_zero]
    rw [List.length_cons, List.range'_succ, List.filterMap_cons, ← hbehind]
    cases hlast : before.length != 0 && beginsReference (before ++ c :: t) (before.length - 1) with
    | true =>
      obtain ⟨hpos, hbegins⟩ := Bool.and_eq_true_iff.mp hlast
      have hnot := beginsReference_succ hbegins
      rw [Nat.sub_add_cancel (Nat.pos_of_ne_zero (bne_iff_ne.mp hpos))] at hnot
      rw [liesInLead, hlast, Bool.or_true, if_pos rfl, hnot]
      rfl
    | false =>
      rw [liesInLead, hlast, Bool.or_false, Bool.toNat_false, Text.rewriteFrom, referenceRule_eq]
      cases beginsReference (before ++ c :: t) before.length with
      | true => rfl
      | false =>
        rw [if_neg Bool.false_ne_true, if_neg Bool.false_ne_true, hget]
        rfl

/-- The pass takes the library's beginning from every reference. -/
theorem dropLeads_eq_withoutLeads (t : Text) : dropLeads t = withoutLeads t := by
  have h := rewriteFrom_referenceRule [] t
  rw [withoutLeads, List.range_eq_range']
  exact h

end References

end Bindery.Markup
