import Bindery.Text.Lead

/-!
# Longest common beginnings

The common beginning of some texts is longest among all texts that each of them begins with, and so
does not depend on their order. A text among them is that beginning itself exactly when all of them
begin with it.
-/

namespace Bindery

namespace Text

/-- The longest text that some texts begin with. -/
structure IsLongestLead (lead : Text) (ts : List Text) : Prop where
  /-- Every text begins with it. -/
  lead_of : ∀ t ∈ ts, lead <+: t
  /-- Whatever every text begins with is a beginning of it. -/
  longest : ∀ other, (∀ t ∈ ts, other <+: t) → other <+: lead

section Lead

variable {lead s t : Text} {ts : List Text}

/-- What two texts begin with is what their common beginning begins with. -/
theorem prefix_commonLead_iff : lead <+: commonLead s t ↔ lead <+: s ∧ lead <+: t := by
  induction s generalizing lead t with
  | nil => cases t <;> simp +contextual [commonLead]
  | cons c s ih =>
    cases t with
    | nil => simp +contextual [commonLead]
    | cons d t =>
      cases lead with
      | nil => simp
      | cons e lead =>
        by_cases hcd : c = d
        · subst hcd
          simp only [commonLead, if_pos, List.cons_prefix_cons, ih]
          exact and_and_left
        · simp only [commonLead, if_neg hcd, List.prefix_nil, List.cons_prefix_cons, reduceCtorEq,
            false_iff]
          rintro ⟨⟨rfl, -⟩, rfl, -⟩
          exact hcd rfl

theorem prefix_foldl_commonLead_iff :
    lead <+: ts.foldl commonLead t ↔ lead <+: t ∧ ∀ u ∈ ts, lead <+: u := by
  induction ts generalizing t with
  | nil => simp
  | cons u ts ih => simp [ih, prefix_commonLead_iff, and_assoc]

/-- What some texts begin with is what their common beginning begins with. -/
theorem prefix_commonLeadOf_iff (h : ts ≠ []) : lead <+: commonLeadOf ts ↔ ∀ t ∈ ts, lead <+: t := by
  cases ts with
  | nil => exact absurd rfl h
  | cons t ts =>
    rw [commonLeadOf, prefix_foldl_commonLead_iff, List.forall_mem_cons]

/-- The common beginning of some texts is a beginning of each. -/
theorem commonLeadOf_prefix_of_mem (h : t ∈ ts) : commonLeadOf ts <+: t :=
  (prefix_commonLeadOf_iff (List.ne_nil_of_mem h)).mp List.prefix_rfl t h

theorem isLongestLead_commonLeadOf (h : ts ≠ []) : IsLongestLead (commonLeadOf ts) ts :=
  ⟨fun _ => commonLeadOf_prefix_of_mem, fun _ => (prefix_commonLeadOf_iff h).mpr⟩

/-- A text is the common beginning of some texts that it is one of, if all begin with it. -/
theorem eq_commonLeadOf_iff (h : t ∈ ts) : t = commonLeadOf ts ↔ ∀ u ∈ ts, t <+: u := by
  constructor
  · intro heq u hu
    rw [heq]
    exact commonLeadOf_prefix_of_mem hu
  · intro hall
    have hlead := (prefix_commonLeadOf_iff (List.ne_nil_of_mem h)).mpr hall
    exact hlead.eq_of_length_le (commonLeadOf_prefix_of_mem h).length_le

end Lead

end Text

end Bindery
