import Bindery.Binding.Marker
import Mathlib.Data.List.Basic

/-!
# Which names are markers

The two kinds of markers as properties of their names. A name asks for a block when it is the fixed
beginning followed by the digits of a number that can be held, and it names a module by what stands
between its first underscore and the next. No name does both.
-/

namespace Bindery.Marker

/-- A name that asks for the block with a number. -/
def AsksFor (name : Text) (number : Nat) : Prop :=
  ∃ digits, name = blockLead ++ digits ∧ digits ≠ [] ∧ (∀ c ∈ digits, c.isDigit = true) ∧
    Nat.ofDigitChars 10 digits 0 = number ∧ number < numberLimit

/-- A name with something between its first underscore and the next one, or the end. -/
def NamesModule (name key : Text) : Prop :=
  key ≠ [] ∧ '_' ∉ key ∧ ∃ before, '_' ∉ before ∧
    (name = before ++ '_' :: key ∨ ∃ rest, name = before ++ '_' :: (key ++ '_' :: rest))

private theorem digit?_of_isDigit {c : Char} (h : c.isDigit = true) :
    Text.digit? 10 c = some (c.toNat - 48) := by
  have hc : c.toNat - 48 < 10 := by
    simp only [Char.isDigit, Bool.and_eq_true, decide_eq_true_eq] at h
    have h9 : c.toNat ≤ 57 := h.2
    omega
  simp [Text.digit?, h, hc]

private theorem mapM_digit? {digits : Text} (h : ∀ c ∈ digits, c.isDigit = true) :
    digits.mapM (Text.digit? 10) = some (digits.map fun c => c.toNat - 48) := by
  induction digits with
  | nil => rfl
  | cons c digits ih =>
    rw [List.mapM_cons, digit?_of_isDigit (h c List.mem_cons_self),
      ih fun d hd => h d (List.mem_cons_of_mem c hd)]
    rfl

/-- Decimal digits write the number that they have by their places. -/
theorem natural?_of_isDigit {digits : Text} (hne : digits ≠ [])
    (h : ∀ c ∈ digits, c.isDigit = true) :
    Text.natural? 10 digits = some (Nat.ofDigitChars 10 digits 0) := by
  cases digits with
  | nil => exact absurd rfl hne
  | cons c digits =>
    rw [Text.natural?, mapM_digit? h, Option.map_some, List.foldl_map, Nat.ofDigitChars_eq_foldl]
    · simp only [Nat.mul_comm 10]
      rfl
    · exact List.cons_ne_nil c digits

/-- A name is read as a marker for a block exactly when it asks for that block. -/
theorem blockNumber?_eq_some_iff {name : Text} {number : Nat} :
    blockNumber? name = some number ↔ AsksFor name number := by
  unfold blockNumber? AsksFor
  simp only [Option.bind_eq_bind, Option.bind_eq_some_iff, Text.after?_eq_some_iff]
  constructor
  · rintro ⟨digits, rfl, h⟩
    split at h
    · next hall =>
      obtain ⟨n, hn, h⟩ := Option.bind_eq_some_iff.mp h
      rw [List.all_eq_true] at hall
      have hne : digits ≠ [] := by
        rintro rfl
        cases hn
      rw [natural?_of_isDigit hne hall, Option.some.injEq] at hn
      split at h
      · next hbound =>
        cases h
        exact ⟨digits, rfl, hne, hall, hn, hbound⟩
      · cases h
    · cases h
  · rintro ⟨digits, rfl, hne, hall, hn, hbound⟩
    refine ⟨digits, rfl, ?_⟩
    rw [if_pos (List.all_eq_true.mpr hall), natural?_of_isDigit hne hall, hn, Option.bind_some]
    exact if_pos hbound

private theorem splitOn_zero_eq_some_iff {t key : Text} :
    (t.splitOn '_')[0]? = some key ↔
      '_' ∉ key ∧ (t = key ∨ ∃ rest, t = key ++ '_' :: rest) := by
  by_cases ht : '_' ∈ t
  · obtain ⟨a, b, rfl, ha⟩ := List.eq_append_cons_of_mem ht
    rw [List.splitOn_append_cons_self_of_not_mem ha, List.getElem?_cons_zero, Option.some.injEq]
    constructor
    · rintro rfl
      exact ⟨ha, Or.inr ⟨b, rfl⟩⟩
    · rintro ⟨hkey, rfl | ⟨rest, he⟩⟩
      · exact absurd (List.mem_append_right a List.mem_cons_self) hkey
      · have hs := congrArg (List.splitOn '_') he
        rw [List.splitOn_append_cons_self_of_not_mem ha,
          List.splitOn_append_cons_self_of_not_mem hkey] at hs
        exact (List.cons.inj hs).1
  · rw [List.splitOn_eq_singleton ht, List.getElem?_cons_zero, Option.some.injEq]
    constructor
    · rintro rfl
      exact ⟨ht, Or.inl rfl⟩
    · rintro ⟨_, rfl | ⟨rest, rfl⟩⟩
      · rfl
      · exact absurd (List.mem_append_right key List.mem_cons_self) ht

private theorem splitOn_one_eq_some_iff {name key : Text} :
    (name.splitOn '_')[1]? = some key ↔
      ∃ before t, '_' ∉ before ∧ name = before ++ '_' :: t ∧ (t.splitOn '_')[0]? = some key := by
  by_cases hname : '_' ∈ name
  · obtain ⟨a, b, rfl, ha⟩ := List.eq_append_cons_of_mem hname
    rw [List.splitOn_append_cons_self_of_not_mem ha, List.getElem?_cons_succ]
    constructor
    · exact fun h => ⟨a, b, ha, rfl, h⟩
    · rintro ⟨before, t, hbefore, he, h⟩
      have hs := congrArg (List.splitOn '_') he
      rw [List.splitOn_append_cons_self_of_not_mem ha,
        List.splitOn_append_cons_self_of_not_mem hbefore] at hs
      rw [(List.cons.inj hs).2]
      exact h
  · rw [List.splitOn_eq_singleton hname]
    constructor
    · intro h
      cases h
    · rintro ⟨before, t, _, rfl, _⟩
      exact absurd (List.mem_append_right before List.mem_cons_self) hname

/-- The module that is read off a name is the one that it names. -/
theorem moduleName?_eq_some_iff {name key : Text} :
    moduleName? name = some key ↔ NamesModule name key := by
  rw [moduleName?, Option.filter_eq_some_iff, splitOn_one_eq_some_iff]
  simp only [splitOn_zero_eq_some_iff, Bool.not_eq_true', List.isEmpty_eq_false_iff]
  constructor
  · rintro ⟨⟨before, t, hbefore, rfl, hkey, rfl | ⟨rest, rfl⟩⟩, hne⟩
    · exact ⟨hne, hkey, before, hbefore, Or.inl rfl⟩
    · exact ⟨hne, hkey, before, hbefore, Or.inr ⟨rest, rfl⟩⟩
  · rintro ⟨hne, hkey, before, hbefore, rfl | ⟨rest, rfl⟩⟩
    · exact ⟨⟨before, key, hbefore, rfl, hkey, Or.inl rfl⟩, hne⟩
    · exact ⟨⟨before, _, hbefore, rfl, hkey, Or.inr ⟨rest, rfl⟩⟩, hne⟩

/-- A name that asks for a block has no underscore. -/
theorem AsksFor.not_mem {name : Text} {number : Nat} (h : AsksFor name number) : '_' ∉ name := by
  obtain ⟨digits, rfl, _, hdigits, _⟩ := h
  intro hmem
  rcases List.mem_append.mp hmem with hlead | hdigit
  · exact absurd hlead (by simp [blockLead, Text.ofString_eq])
  · exact absurd (hdigits '_' hdigit) (by decide)

/-- A name that asks for a block names no module. -/
theorem AsksFor.not_namesModule {name key : Text} {number : Nat} (h : AsksFor name number) :
    ¬ NamesModule name key := by
  rintro ⟨_, _, before, _, rfl | ⟨rest, rfl⟩⟩ <;>
    exact h.not_mem (List.mem_append_right before List.mem_cons_self)

end Bindery.Marker
