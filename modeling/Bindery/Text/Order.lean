import Bindery.Text.Basic

/-!
# Alphabetical order

Texts are compared at the first place where they differ, by code points; a text that ends there
comes first.
-/

namespace Bindery.Text

/-- Whether the first text comes before the second one, or is the same. -/
def precedes : Text → Text → Bool
  | [], _ => true
  | _ :: _, [] => false
  | c :: s, d :: t => c.toNat < d.toNat || (c == d && precedes s t)

/-- Of any two texts one comes first. -/
theorem precedes_total (s t : Text) : precedes s t = true ∨ precedes t s = true := by
  induction s generalizing t with
  | nil => exact Or.inl rfl
  | cons c s ih =>
    cases t with
    | nil => exact Or.inr rfl
    | cons d t =>
      by_cases h : c = d
      · subst h
        simpa [precedes] using ih t
      · have hne : c.toNat ≠ d.toNat := fun he => h (Char.toNat_inj.mp he)
        rcases Nat.lt_or_gt_of_ne hne with hlt | hlt
        · exact Or.inl (by simp [precedes, hlt])
        · exact Or.inr (by simp [precedes, hlt])

end Bindery.Text
