import Bindery.Text.Basic

/-!
# Common beginnings

The common beginning of two texts is the longest text that both begin with, and likewise for any
number of texts.
-/

namespace Bindery.Text

/-- The longest common beginning of two texts. -/
def commonLead : Text → Text → Text
  | c :: s, d :: t => if c = d then c :: commonLead s t else []
  | _, _ => []

/-- The common beginning is a beginning of the first text. -/
theorem commonLead_prefix_left (s t : Text) : commonLead s t <+: s := by
  induction s generalizing t with
  | nil => cases t <;> simp [commonLead]
  | cons c s ih =>
    cases t with
    | nil => simp [commonLead]
    | cons d t =>
      by_cases h : c = d
      · simp [commonLead, h, ih]
      · simp [commonLead, h]

/-- The order of the two texts does not matter. -/
theorem commonLead_comm (s t : Text) : commonLead s t = commonLead t s := by
  induction s generalizing t with
  | nil => cases t <;> simp [commonLead]
  | cons c s ih =>
    cases t with
    | nil => simp [commonLead]
    | cons d t =>
      by_cases h : c = d
      · subst h
        simp [commonLead, ih]
      · simp [commonLead, h, Ne.symm h]

/-- The longest common beginning of some texts; nothing for no texts. -/
def commonLeadOf : List Text → Text
  | [] => []
  | t :: ts => ts.foldl commonLead t

end Bindery.Text
