import Bindery.Proofs.Form

/-!
# The order of choices

Counting from zero lists the choices without the first element before those with it, and each half
in the order of the remaining elements: the highest digit turns once, in the middle. So nothing is
chosen first and everything last, and no choice of distinct elements comes twice.

A word of 64 bits counts the choices of fewer than 64 elements. The digits are then read by masks,
and the first element still has the highest of them.
-/

namespace Bindery

/-! ## The recursion behind the counting -/

/-- The choices without the first element, and then the same ones with it. -/
def choicesInTurn {α : Type} : List α → List (List α)
  | [] => [[]]
  | x :: xs => choicesInTurn xs ++ (choicesInTurn xs).map (x :: ·)

/-- Choices in the order of their numbers are those of the recursion. -/
theorem choices_eq_choicesInTurn {α : Type} (xs : List α) : choices xs = choicesInTurn xs := by
  induction xs with
  | nil => rfl
  | cons x xs ih => rw [choices_cons, ih, choicesInTurn]

/-- There are as many choices as numbers with one digit for each element. -/
theorem length_choices {α : Type} (xs : List α) : (choices xs).length = 2 ^ xs.length := by
  rw [choices_eq_sublists', List.length_sublists']

/-- Everything is chosen last. -/
theorem getLast?_choices {α : Type} (xs : List α) : (choices xs).getLast? = some xs := by
  induction xs with
  | nil => rfl
  | cons x xs ih =>
    rw [choices_cons, List.getLast?_append, List.getLast?_map, ih]
    rfl

/-! ## Counting by words -/

/-- Whether a digit of a word is one. The last digit has the number zero. -/
def hasDigit (word : BitVec 64) (i : Nat) : Bool := word &&& (1#64 <<< i) != 0#64

/-- The digit that a mask shows is the binary digit of the number. -/
theorem hasDigit_eq_testBit (word : BitVec 64) {i : Nat} (hi : i < 64) :
    hasDigit word i = word.toNat.testBit i := by
  have hmask : (BitVec.twoPow 64 i).toNat = 2 ^ i := BitVec.toNat_twoPow_of_lt hi
  have hne : BitVec.twoPow 64 i ≠ 0#64 := by
    rw [Ne, ← BitVec.toNat_inj, hmask, BitVec.toNat_zero]
    exact (Nat.two_pow_pos i).ne'
  rw [hasDigit, ← BitVec.twoPow_eq, BitVec.and_twoPow, BitVec.testBit_toNat]
  split
  · next hdigit => rw [hdigit, bne_iff_ne.mpr hne]
  · next hdigit => rw [Bool.eq_false_iff.mpr hdigit, bne_self_eq_false]

/-- The elements that a word chooses, the first one by the highest of as many digits. -/
def chosenByWord {α : Type} (word : BitVec 64) (xs : List α) : List α :=
  (xs.zipIdx.filter fun p => hasDigit word (xs.length - 1 - p.2)).map (·.1)

/-- The element at the front has the highest digit, and the others keep theirs. -/
theorem chosenByWord_cons {α : Type} (word : BitVec 64) (x : α) (xs : List α) :
    chosenByWord word (x :: xs) =
      if hasDigit word xs.length then x :: chosenByWord word xs else chosenByWord word xs := by
  have hbehind : (xs.zipIdx 1).filter (fun p => hasDigit word (xs.length - p.2)) =
      (xs.zipIdx.filter fun p => hasDigit word (xs.length - 1 - p.2)).map
        fun p => (p.1, p.2 + 1) := by
    rw [List.zipIdx_succ, List.filter_map]
    congr 2
    funext p
    rw [Function.comp_apply, Nat.sub_sub, Nat.add_comm 1]
  rw [chosenByWord, List.zipIdx_cons, List.filter_cons, List.length_cons, Nat.add_sub_cancel,
    Nat.zero_add, Nat.sub_zero, hbehind]
  split <;> simp [chosenByWord]

/-- A word chooses what its number chooses. -/
theorem chosenByWord_eq {α : Type} {xs : List α} (h : xs.length ≤ 64) (word : BitVec 64) :
    chosenByWord word xs = chosen word.toNat xs := by
  induction xs with
  | nil => rfl
  | cons x xs ih =>
    have hlt : xs.length < 64 := h
    rw [chosenByWord_cons, chosen, hasDigit_eq_testBit word hlt, ih hlt.le]

/-- The choices of all words below the one whose only digit is in front of those of the elements. -/
def choicesByWord {α : Type} (xs : List α) : List (List α) :=
  (List.range (1#64 <<< xs.length).toNat).map fun n => chosenByWord (BitVec.ofNat 64 n) xs

/-- Words count the choices of fewer than 64 elements. -/
theorem choicesByWord_eq {α : Type} {xs : List α} (h : xs.length < 64) :
    choicesByWord xs = choices xs := by
  have hpow : 2 ^ xs.length < 2 ^ 64 := Nat.pow_lt_pow_right (by decide) h
  have hbound : (1#64 <<< xs.length).toNat = 2 ^ xs.length := by
    rw [BitVec.toNat_shiftLeft, BitVec.toNat_ofNat, Nat.shiftLeft_eq,
      Nat.one_mod_eq_one.mpr (by decide), Nat.one_mul, Nat.mod_eq_of_lt hpow]
  rw [choicesByWord, hbound]
  refine List.map_congr_left fun n hn => ?_
  have hn := (List.mem_range.mp hn).trans hpow
  rw [chosenByWord_eq h.le, BitVec.toNat_ofNat, Nat.mod_eq_of_lt hn]

/-! ## All choices -/

/-- **Choices run through the sublists.** Choices of fewer than 64 distinct elements are listed in
the order of the recursion, by words as well as by numbers. There are as many as there are numbers
with so many digits, and every sublist is one of them and comes once, that of nothing first and that
of everything last. -/
theorem choices_enumerate_sublists {α : Type} {xs : List α} (hlength : xs.length < 64)
    (hnodup : xs.Nodup) :
    choices xs = choicesInTurn xs ∧ choices xs = choicesByWord xs ∧
      (choices xs).length = 2 ^ xs.length ∧ (choices xs).Nodup ∧
      (∀ ys, ys ∈ choices xs ↔ ys.Sublist xs) ∧
      (choices xs).head? = some [] ∧ (choices xs).getLast? = some xs := by
  refine ⟨choices_eq_choicesInTurn xs, (choicesByWord_eq hlength).symm, length_choices xs, ?_, ?_,
    ?_, getLast?_choices xs⟩
  · rw [choices_eq_sublists']
    exact List.nodup_sublists'.mpr hnodup
  · intro ys
    rw [choices_eq_sublists', List.mem_sublists']
  · obtain ⟨others, hchoices, _⟩ := choices_eq_cons xs
    rw [hchoices, List.head?_cons]

/-- Three elements have eight choices, each with its elements in the order of the list. -/
theorem choices_enumerate_sublists_threePlaces :
    [4, 0, 7].length < 64 ∧ [4, 0, 7].Nodup ∧
      choices [4, 0, 7] = [[], [7], [0], [0, 7], [4], [4, 7], [4, 0], [4, 0, 7]] ∧
      (choices [4, 0, 7]).Nodup ∧ (∀ ys, ys ∈ choices [4, 0, 7] ↔ ys.Sublist [4, 0, 7]) := by
  have hlength : [4, 0, 7].length < 64 := by decide
  have hnodup : [4, 0, 7].Nodup := by decide
  obtain ⟨hturn, _, _, honce, hmem, _⟩ := choices_enumerate_sublists hlength hnodup
  exact ⟨hlength, hnodup, hturn, honce, hmem⟩

end Bindery
