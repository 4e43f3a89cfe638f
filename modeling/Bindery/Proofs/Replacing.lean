import Bindery.Text.Search
import Mathlib.Data.List.Infix

/-!
# Finding and replacing

What occurs in a text that is made of parts, and what a replacement leaves of the text: it brings
nothing in but what is written instead, takes nothing away but what is replaced, and leaves no
occurrence of that where the two cannot overlap. What is found in a table is an entry of it.
-/

namespace Bindery.Text

variable {old new s t word : Text} {c d : Char}

/-! ## Occurrences -/

/-- A text occurs exactly where it is part of the other one. -/
theorem occurs_iff : occurs old t = true ↔ old <:+: t := by
  constructor
  · intro h
    obtain ⟨⟨left, right⟩, hcut⟩ := Option.isSome_iff_exists.mp h
    exact ⟨left, right, (eq_of_cutAt? hcut).symm⟩
  · rintro ⟨left, right, rfl⟩
    induction left with
    | nil =>
      rw [List.nil_append]
      cases old with
      | nil => cases right <;> rfl
      | cons c old =>
        have hafter : after? (c :: old) (c :: (old ++ right)) = some right :=
          after?_append (c :: old) right
        rw [occurs, List.cons_append, cutAt?, hafter]
        rfl
    | cons c left ih =>
      rw [occurs] at ih
      rw [occurs, List.cons_append, List.cons_append, cutAt?]
      split
      · rfl
      · rw [Option.isSome_map]
        exact ih

/-- A word does not begin in a part of the text that lacks its first character. -/
theorem infix_append_iff_of_not_mem (h : c ∉ s) : c :: word <:+: s ++ t ↔ c :: word <:+: t := by
  constructor
  · intro hoccurs
    induction s with
    | nil => exact hoccurs
    | cons d s ih =>
      rcases List.infix_cons_iff.mp hoccurs with hstart | hoccurs
      · exact absurd ((List.cons_prefix_cons.mp hstart).1 ▸ List.mem_cons_self) h
      · exact ih (fun hmem => h (List.mem_cons_of_mem d hmem)) hoccurs
  · exact fun hoccurs => hoccurs.trans (List.suffix_append s t).isInfix

/-- A word does not end with a character that it lacks. -/
theorem infix_concat_iff_of_not_mem (h : c ∉ word) : word <:+: t ++ [c] ↔ word <:+: t := by
  rw [List.infix_concat_iff, or_iff_right_iff_imp]
  intro hend
  rcases List.suffix_concat_iff.mp hend with rfl | ⟨word, rfl, _⟩
  · exact List.nil_infix
  · exact absurd (List.mem_append_right word List.mem_cons_self) h

/-- A beginning is looked for in vain where a text goes on with another character. -/
theorem after?_append_of_disjoint {lead rest : Text} (h : ∀ c ∈ rest.head?, c ∉ lead) :
    after? lead (t ++ rest) = (after? lead t).map (· ++ rest) := by
  induction lead generalizing t with
  | nil => rfl
  | cons c lead ih =>
    have hlead : ∀ d ∈ rest.head?, d ∉ lead :=
      fun d hd hmem => h d hd (List.mem_cons_of_mem c hmem)
    cases t with
    | nil =>
      cases rest with
      | nil => rfl
      | cons d rest =>
        have hne : c ≠ d := fun he => h d rfl (he ▸ List.mem_cons_self)
        exact if_neg hne
    | cons d t =>
      rw [List.cons_append, after?, after?]
      split
      · exact ih hlead
      · rfl

/-- What occurs in a text with other characters behind it occurs in the text. -/
theorem infix_append_of_disjoint {tail : Text} (h : ∀ c ∈ tail, c ∉ word) :
    word <:+: t ++ tail ↔ word <:+: t := by
  induction tail using List.reverseRecOn with
  | nil => rw [List.append_nil]
  | append_singleton tail c ih =>
    rw [← List.append_assoc, infix_concat_iff_of_not_mem (h c (by simp)),
      ih fun d hd => h d (List.mem_append_left _ hd)]

/-- A word goes no further than to a character that it lacks. -/
theorem prefix_of_prefix_append_cons (h : c ∉ word) (hword : word <+: s ++ c :: t) :
    word <+: s := by
  rcases List.prefix_or_prefix_of_prefix hword (List.prefix_append s (c :: t)) with hs | ⟨tail, rfl⟩
  · exact hs
  · have htail := (List.prefix_append_right_inj s).mp hword
    cases tail with
    | nil => rw [List.append_nil]
    | cons d tail =>
      rw [(List.cons_prefix_cons.mp htail).1] at h
      exact absurd (List.mem_append_right s List.mem_cons_self) h

/-- A word occurs on one side of a character that it lacks. -/
theorem infix_append_cons_iff (h : c ∉ word) :
    word <:+: s ++ c :: t ↔ word <:+: s ∨ word <:+: t := by
  constructor
  · intro hoccurs
    induction s with
    | nil =>
      rcases List.infix_cons_iff.mp hoccurs with hstart | hoccurs
      · exact Or.inl (prefix_of_prefix_append_cons (s := []) h hstart).isInfix
      · exact Or.inr hoccurs
    | cons d s ih =>
      rcases List.infix_cons_iff.mp hoccurs with hstart | hoccurs
      · exact Or.inl (prefix_of_prefix_append_cons (s := d :: s) h hstart).isInfix
      · exact (ih hoccurs).imp_left List.infix_cons
  · rintro (hoccurs | hoccurs)
    · exact hoccurs.trans (List.prefix_append s _).isInfix
    · exact hoccurs.trans ((List.suffix_cons c t).trans (List.suffix_append s _)).isInfix

/-- An ending does not begin before a character that it lacks. -/
theorem suffix_of_suffix_append_cons (h : c ∉ word) (hword : word <:+ s ++ c :: t) :
    word <:+ t := by
  rcases List.suffix_or_suffix_of_suffix hword (List.suffix_append s (c :: t)) with hend | hend
  · rcases List.suffix_cons_iff.mp hend with rfl | hend
    · exact absurd List.mem_cons_self h
    · exact hend
  · exact absurd (hend.subset List.mem_cons_self) h

/-- An ending does not begin in a part of the text that lacks its first character. -/
theorem suffix_of_suffix_append (h : c ∉ s) (hword : c :: word <:+ s ++ t) : c :: word <:+ t := by
  rcases List.suffix_or_suffix_of_suffix hword (List.suffix_append s t) with hend | ⟨lead, hlead⟩
  · exact hend
  · obtain ⟨left, hleft⟩ := hword
    rw [← hlead, ← List.append_assoc] at hleft
    obtain rfl := List.append_cancel_right hleft
    cases lead with
    | nil => exact ⟨[], hlead.symm⟩
    | cons d lead =>
      rw [← (List.cons.inj hlead).1] at h
      exact absurd (List.mem_append_right left List.mem_cons_self) h

/-! ## Replacements -/

/-- What stands in a rewritten text was written by the rule or stood in the text. -/
theorem mem_of_mem_rewriteFrom {rule : Rule} {last : Option Char} {skip : Nat}
    (h : c ∈ rewriteFrom rule last skip t) :
    (∃ last d rest change, rule last d rest = some change ∧ c ∈ change.text) ∨ c ∈ t := by
  fun_induction rewriteFrom rule last skip t with
  | case1 => exact absurd h List.not_mem_nil
  | case2 last d t n ih => exact (ih h).imp_right (List.mem_cons_of_mem d)
  | case3 last d t change hchange ih =>
    rcases List.mem_append.mp h with h | h
    · exact Or.inl ⟨last, d, t, change, hchange, h⟩
    · exact (ih h).imp_right (List.mem_cons_of_mem d)
  | case4 last d t hnone ih =>
    rcases List.mem_cons.mp h with rfl | h
    · exact Or.inr List.mem_cons_self
    · exact (ih h).imp_right (List.mem_cons_of_mem d)

/-- What is replaced stands at the place, and all of it is replaced. -/
theorem Rule.literal_eq_some_iff {last : Option Char} {change : Change} :
    Rule.literal old new last c t = some change ↔
      startsWith old (c :: t) = true ∧ ⟨new, old.length - 1⟩ = change := by
  unfold literal
  split <;> simp_all

theorem Rule.literal_eq_none_iff {last : Option Char} :
    Rule.literal old new last c t = none ↔ startsWith old (c :: t) = false := by
  unfold literal
  split <;> simp_all

/-- Replacing does not look back. -/
theorem rewriteFrom_literal_last (last : Option Char) (skip : Nat) :
    rewriteFrom (Rule.literal old new) last skip t =
      rewriteFrom (Rule.literal old new) none skip t := by
  cases t <;> cases skip <;> rfl

/-- A character at which nothing to be replaced begins stays. -/
theorem replace_cons (h : startsWith old (c :: t) = false) :
    replace old new (c :: t) = c :: replace old new t := by
  rw [replace, rewrite, rewriteFrom, Rule.literal_eq_none_iff.mpr h]
  exact congrArg (c :: ·) (rewriteFrom_literal_last (some c) 0)

/-- A text still begins as it did where what is written begins like what is replaced. -/
theorem head?_replace (hnew : new.head? = old.head?) (hold : old ≠ []) :
    (replace old new t).head? = t.head? := by
  cases t with
  | nil => rfl
  | cons c t =>
    cases hstarts : startsWith old (c :: t) with
    | false => rw [replace_cons hstarts, List.head?_cons, List.head?_cons]
    | true =>
      obtain ⟨d, old, rfl⟩ := List.exists_cons_of_ne_nil hold
      obtain ⟨rest, hrest⟩ := startsWith_iff.mp hstarts
      rw [(List.cons.inj hrest).1, replace, rewrite, rewriteFrom,
        Rule.literal_eq_some_iff.mpr ⟨(List.cons.inj hrest).1 ▸ hstarts, rfl⟩, List.head?_append,
        hnew]
      rfl

private theorem rewriteFrom_literal_append {rest : Text} (h : ∀ c ∈ rest.head?, c ∉ old)
    (hold : old ≠ []) {last : Option Char} {skip : Nat} (hskip : skip ≤ t.length) :
    rewriteFrom (Rule.literal old new) last skip (t ++ rest) =
      rewriteFrom (Rule.literal old new) last skip t ++ replace old new rest := by
  induction t generalizing last skip with
  | nil =>
    obtain rfl := Nat.le_zero.mp hskip
    exact rewriteFrom_literal_last last 0
  | cons c t ih =>
    cases skip with
    | succ n => exact ih (Nat.le_of_succ_le_succ hskip)
    | zero =>
      have hstarts : startsWith old (c :: (t ++ rest)) = startsWith old (c :: t) := by
        rw [startsWith, startsWith, ← List.cons_append, after?_append_of_disjoint h,
          Option.isSome_map]
      rw [List.cons_append, rewriteFrom, rewriteFrom]
      cases hmatch : startsWith old (c :: t) with
      | false =>
        rw [Rule.literal_eq_none_iff.mpr (hstarts.trans hmatch),
          Rule.literal_eq_none_iff.mpr hmatch]
        exact congrArg (c :: ·) (ih (Nat.zero_le _))
      | true =>
        obtain ⟨behind, hbehind⟩ := startsWith_iff.mp hmatch
        have hlength := congrArg List.length hbehind
        rw [List.length_cons, List.length_append] at hlength
        have hpos := List.length_pos_iff.mpr hold
        rw [Rule.literal_eq_some_iff.mpr ⟨hstarts.trans hmatch, rfl⟩,
          Rule.literal_eq_some_iff.mpr ⟨hmatch, rfl⟩]
        dsimp only
        rw [ih (by omega), List.append_assoc]

/-- The parts of a text are replaced apart, where none of what is replaced goes on with the second
part. -/
theorem replace_append_of_disjoint {rest : Text} (h : ∀ c ∈ rest.head?, c ∉ old) (hold : old ≠ []) :
    replace old new (t ++ rest) = replace old new t ++ replace old new rest :=
  rewriteFrom_literal_append h hold (Nat.zero_le _)

/-- What stands in a text after a replacement stood there or in what is written instead. -/
theorem mem_of_mem_replace (h : c ∈ replace old new t) : c ∈ new ∨ c ∈ t := by
  refine (mem_of_mem_rewriteFrom h).imp_left ?_
  rintro ⟨last, d, rest, change, hchange, hmem⟩
  obtain ⟨_, rfl⟩ := Rule.literal_eq_some_iff.mp hchange
  exact hmem

private theorem mem_rewriteFrom_literal (hc : c ∉ old) (hne : old ≠ []) {last : Option Char}
    {skip : Nat} (h : c ∈ t.drop skip) : c ∈ rewriteFrom (Rule.literal old new) last skip t := by
  induction t generalizing last skip with
  | nil => simp at h
  | cons d t ih =>
    cases skip with
    | succ n => exact ih h
    | zero =>
      unfold rewriteFrom
      dsimp only
      split
      · next change hchange =>
        obtain ⟨hstarts, rfl⟩ := Rule.literal_eq_some_iff.mp hchange
        refine List.mem_append_right new (ih ?_)
        obtain ⟨rest, hrest⟩ := startsWith_iff.mp hstarts
        have hmem : c ∈ (d :: t).drop old.length := by
          rw [List.drop_zero, hrest] at h
          rw [hrest, List.drop_left]
          exact (List.mem_append.mp h).resolve_left hc
        cases old with
        | nil => exact absurd rfl hne
        | cons e old => exact hmem
      · next hnone =>
        rcases List.mem_cons.mp h with rfl | h
        · exact List.mem_cons_self
        · exact List.mem_cons_of_mem d (ih h)

/-- A character that is not part of what is replaced stays. -/
theorem mem_replace (hc : c ∉ old) (hne : old ≠ []) (h : c ∈ t) : c ∈ replace old new t :=
  mem_rewriteFrom_literal hc hne (by rwa [List.drop_zero])

/-- A replacement leaves something of what is written instead, or the text as it is. -/
theorem infix_replace_or_eq : new <:+: replace old new t ∨ replace old new t = t := by
  have hfrom : ∀ (t : Text) (last : Option Char),
      new <:+: rewriteFrom (Rule.literal old new) last 0 t ∨
        rewriteFrom (Rule.literal old new) last 0 t = t := by
    intro t
    induction t with
    | nil => exact fun _ => Or.inr rfl
    | cons c t ih =>
      intro last
      rw [rewriteFrom]
      split
      · next change hchange =>
        obtain ⟨_, rfl⟩ := Rule.literal_eq_some_iff.mp hchange
        exact Or.inl (List.prefix_append _ _).isInfix
      · exact (ih (some c)).imp List.infix_cons (congrArg (c :: ·))
  exact hfrom t none

/-- A text in which something is replaced begins as before with a word that does not go into what is
written instead. -/
theorem prefix_of_prefix_rewriteFrom (hnew : new.head? = some c) (hc : c ∉ word)
    {last : Option Char} (h : word <+: rewriteFrom (Rule.literal old new) last 0 t) :
    word <+: t := by
  induction t generalizing word last with
  | nil => exact h
  | cons d t ih =>
    cases word with
    | nil => exact List.nil_prefix
    | cons e word =>
      rw [rewriteFrom] at h
      split at h
      · next change hchange =>
        obtain ⟨_, rfl⟩ := Rule.literal_eq_some_iff.mp hchange
        obtain ⟨rest, rfl⟩ := List.head?_eq_some_iff.mp hnew
        exact absurd ((List.cons_prefix_cons.mp h).1 ▸ List.mem_cons_self) hc
      · obtain ⟨rfl, h⟩ := List.cons_prefix_cons.mp h
        exact List.cons_prefix_cons.mpr
          ⟨rfl, ih (fun hmem => hc (List.mem_cons_of_mem _ hmem)) h⟩

/-- Nothing is left of what is replaced by something that it cannot overlap. -/
theorem not_infix_replace (hold : old.head? = some c) (hc : c ∉ new) (hnew : new.head? = some d)
    (hd : d ∉ old) : ¬ old <:+: replace old new t := by
  have hfrom : ∀ (t : Text) (last : Option Char) (skip : Nat),
      ¬ old <:+: rewriteFrom (Rule.literal old new) last skip t := by
    obtain ⟨word, rfl⟩ := List.head?_eq_some_iff.mp hold
    intro t
    induction t with
    | nil => exact fun _ _ h => List.cons_ne_nil c word (List.infix_nil.mp h)
    | cons e t ih =>
      intro last skip h
      cases skip with
      | succ n => exact ih _ n h
      | zero =>
        rw [rewriteFrom] at h
        split at h
        · next change hchange =>
          obtain ⟨_, rfl⟩ := Rule.literal_eq_some_iff.mp hchange
          exact ih _ _ ((infix_append_iff_of_not_mem hc).mp h)
        · next hnone =>
          rcases List.infix_cons_iff.mp h with hstart | hoccurs
          · -- What stands here would have been replaced.
            refine Bool.eq_false_iff.mp (Rule.literal_eq_none_iff.mp hnone) ?_
            obtain ⟨rfl, hstart⟩ := List.cons_prefix_cons.mp hstart
            have hword : d ∉ word := fun hmem => hd (List.mem_cons_of_mem _ hmem)
            obtain ⟨rest, rfl⟩ := prefix_of_prefix_rewriteFrom hnew hword hstart
            exact startsWith_iff.mpr ⟨rest, rfl⟩
          · exact ih _ _ hoccurs
  exact hfrom t none 0

end Bindery.Text

namespace Bindery

/-! ## Tables -/

/-- What a table gives is one of its entries. -/
theorem mem_of_lookup {α β : Type} [BEq α] [LawfulBEq α] {table : List (α × β)} {key : α}
    {value : β} (h : table.lookup key = some value) : (key, value) ∈ table := by
  obtain ⟨before, after, rfl, _⟩ := List.lookup_eq_some_iff.mp h
  exact List.mem_append_right before List.mem_cons_self

end Bindery
