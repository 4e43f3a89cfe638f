import Bindery.Binding.Overload
import Mathlib.Algebra.Group.Nat.Defs
import Mathlib.Data.List.Sublists

/-!
# The foreign form and its adapters

The numbered choices of elements are the sublists, that of nothing first. So the first form of a
procedure is the foreign declaration. Every other form gives some parameters by value, so it is an
adapter, and it says nothing of the foreign procedure.
-/

namespace Bindery

/-- Digits above those in question do not matter for what is chosen. -/
theorem chosen_two_pow_add {α : Type} {n : Nat} {xs : List α} (h : xs.length ≤ n) (mask : Nat) :
    chosen (2 ^ n + mask) xs = chosen mask xs := by
  induction xs with
  | nil => rfl
  | cons x xs ih =>
    have hlt : xs.length < n := h
    rw [chosen, chosen, Nat.testBit_two_pow_add_gt hlt, ih (Nat.le_of_lt hlt)]

/-- The choices without the first element come first, and then the same ones with it. -/
theorem choices_cons {α : Type} (x : α) (xs : List α) :
    choices (x :: xs) = choices xs ++ (choices xs).map (x :: ·) := by
  have hlow : ∀ mask ∈ List.range (2 ^ xs.length), chosen mask (x :: xs) = chosen mask xs := by
    intro mask hmask
    rw [chosen, Nat.testBit_lt_two_pow (List.mem_range.mp hmask), if_neg Bool.false_ne_true]
  have hhigh : ∀ mask ∈ List.range (2 ^ xs.length),
      chosen (2 ^ xs.length + mask) (x :: xs) = x :: chosen mask xs := by
    intro mask hmask
    rw [chosen, Nat.testBit_two_pow_add_eq, Nat.testBit_lt_two_pow (List.mem_range.mp hmask),
      Bool.not_false, if_pos rfl, chosen_two_pow_add (Nat.le_refl _)]
  change (List.range (2 ^ (xs.length + 1))).map (fun mask => chosen mask (x :: xs)) = _
  rw [Nat.pow_succ, Nat.mul_two, List.range_add, List.map_append, List.map_map,
    List.map_congr_left hlow]
  refine congrArg (_ ++ ·) ?_
  rw [choices, List.map_map]
  exact List.map_congr_left hhigh

/-- The choices of elements are the sublists. -/
theorem choices_eq_sublists' {α : Type} (xs : List α) : choices xs = xs.sublists' := by
  induction xs with
  | nil => rfl
  | cons x xs ih => rw [choices_cons, List.sublists'_cons, ih]

/-- The first choice is that of nothing, and there is no other such choice. -/
theorem choices_eq_cons {α : Type} (xs : List α) :
    ∃ others, choices xs = [] :: others ∧ ∀ places ∈ others, places ≠ [] := by
  induction xs with
  | nil => exact ⟨[], rfl, nofun⟩
  | cons x xs ih =>
    obtain ⟨others, hchoices, hne⟩ := ih
    refine ⟨others ++ (choices xs).map (x :: ·), by rw [choices_cons, hchoices]; rfl, ?_⟩
    intro places hplaces
    rcases List.mem_append.mp hplaces with hplaces | hplaces
    · exact hne places hplaces
    · obtain ⟨behind, _, rfl⟩ := List.mem_map.mp hplaces
      exact List.cons_ne_nil x behind

namespace ProcedureHead

/-- A form begins with its parameters in writing. -/
theorem declare_prefix_form (h : ProcedureHead) (params : List BoundParam) (places : List Nat) :
    h.declare (enumerate (writtenParams params places)) <+: h.form params places := by
  unfold form
  dsimp only
  split
  · simp only [List.append_assoc]
    exact List.prefix_append _ _
  · simp only [List.append_assoc]
    exact List.prefix_append _ _

/-- The forms of a procedure are those for all choices. -/
theorem mem_forms_iff {h : ProcedureHead} {params : List BoundParam} {form : Text} :
    form ∈ h.forms params ↔
      ∃ chosenPlaces ∈ choices (places params), h.form params chosenPlaces = form := by
  rw [forms, List.mem_eraseDups, List.mem_map]

/-- The forms of a procedure are the foreign declaration and adapters behind it. -/
theorem forms_eq_cons (h : ProcedureHead) (params : List BoundParam) :
    ∃ adapters, h.forms params = h.form params [] :: adapters ∧
      ∀ adapter ∈ adapters, ∃ places ≠ [], adapter = h.form params places := by
  obtain ⟨others, hchoices, hne⟩ := choices_eq_cons (places params)
  unfold forms
  rw [hchoices, List.map_cons, List.eraseDups_cons]
  refine ⟨_, rfl, ?_⟩
  intro adapter hadapter
  have hmem := List.mem_of_mem_filter (List.mem_eraseDups.mp hadapter)
  obtain ⟨chosenPlaces, hplaces, rfl⟩ := List.mem_map.mp hmem
  exact ⟨chosenPlaces, hne _ hplaces, rfl⟩

/-- The foreign declaration comes first. -/
theorem head?_forms (h : ProcedureHead) (params : List BoundParam) :
    (h.forms params).head? = some (h.form params []) := by
  obtain ⟨adapters, hforms, _⟩ := h.forms_eq_cons params
  rw [hforms, List.head?_cons]

end ProcedureHead

end Bindery
