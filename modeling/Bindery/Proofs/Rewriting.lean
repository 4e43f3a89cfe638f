import Bindery.Proofs.Replacing

/-!
# What a rewriting rule leaves alone

A rule that does not look back rewrites a text part by part: what it declines is kept, and behind
what it recognises the rest is rewritten by itself. A word stays where it stands if nothing that is
recognised reaches into it, and no word comes up where nothing is joined to what could be its
beginning.
-/

namespace Bindery.Text

variable {rule : Rule} {old new s t u word : Text} {c d : Char}

/-! ## Parts of a text -/

/-- A rule does not look at the character before. -/
def Rule.IgnoresLast (rule : Rule) : Prop := ∀ last c t, rule last c t = rule none c t

theorem Rule.ignoresLast_literal (old new : Text) : (Rule.literal old new).IgnoresLast :=
  fun _ _ _ => rfl

/-- Characters that belong to a match are passed over. -/
theorem rewriteFrom_length_append (rule : Rule) (last : Option Char) (u t : Text) :
    rewriteFrom rule last u.length (u ++ t) = rewriteFrom rule (u.getLast?.or last) 0 t := by
  induction u generalizing last with
  | nil => rfl
  | cons c u ih =>
    rw [List.cons_append, List.length_cons, rewriteFrom, ih, List.getLast?_cons]
    cases u.getLast? <;> rfl

section IgnoresLast

variable (h : rule.IgnoresLast)

include h

theorem Rule.IgnoresLast.rewriteFrom_eq (last : Option Char) (skip : Nat) (t : Text) :
    rewriteFrom rule last skip t = rewriteFrom rule none skip t := by
  cases t with
  | nil => rfl
  | cons c t =>
    cases skip with
    | succ n => rfl
    | zero => rw [rewriteFrom, rewriteFrom, h last c t]

/-- What a rule declines is kept. -/
theorem Rule.IgnoresLast.rewrite_cons (hnone : rule none c t = none) :
    rewrite rule (c :: t) = c :: rewrite rule t := by
  rw [rewrite, rewriteFrom, hnone]
  exact congrArg (c :: ·) (h.rewriteFrom_eq (some c) 0 t)

/-- Behind what a rule recognises the rest is rewritten by itself. -/
theorem Rule.IgnoresLast.rewrite_append (hchange : rule none c (u ++ t) = some ⟨new, u.length⟩) :
    rewrite rule (c :: (u ++ t)) = new ++ rewrite rule t := by
  rw [rewrite, rewriteFrom, hchange]
  dsimp only
  rw [rewriteFrom_length_append, h.rewriteFrom_eq]
  rfl

/-- A text is kept as far as the rule declines it. -/
theorem Rule.IgnoresLast.rewrite_append_of_forall
    (hnone : ∀ c u, c :: u <:+ s → rule none c (u ++ t) = none) :
    rewrite rule (s ++ t) = s ++ rewrite rule t := by
  induction s with
  | nil => rfl
  | cons c s ih =>
    rw [List.cons_append, h.rewrite_cons (hnone c s List.suffix_rfl), List.cons_append,
      ih fun d u hu => hnone d u (hu.trans (List.suffix_cons c s))]

/-- A part of a text that lacks the character at which a rule recognises something is kept. -/
theorem Rule.IgnoresLast.rewrite_append_of_not_mem
    (hstart : ∀ d t, d ≠ c → rule none d t = none) (hc : c ∉ s) :
    rewrite rule (s ++ t) = s ++ rewrite rule t := by
  refine h.rewrite_append_of_forall fun d u hu => hstart d (u ++ t) ?_
  rintro rfl
  exact hc (hu.subset List.mem_cons_self)

end IgnoresLast

/-- What is replaced is recognised where it stands. -/
theorem replace_append (hold : old ≠ []) (new t : Text) :
    replace old new (old ++ t) = new ++ replace old new t := by
  obtain ⟨c, u, rfl⟩ := List.exists_cons_of_ne_nil hold
  refine (Rule.ignoresLast_literal (c :: u) new).rewrite_append ?_
  exact Rule.literal_eq_some_iff.mpr ⟨startsWith_iff.mpr ⟨t, rfl⟩, rfl⟩

/-- Nothing is replaced where another character stands than what is replaced begins with. -/
theorem Rule.literal_eq_none_of_ne (h : d ≠ c) :
    Rule.literal (c :: old) new none d t = none := by
  refine Rule.literal_eq_none_iff.mpr (Bool.eq_false_iff.mpr fun hstarts => ?_)
  obtain ⟨rest, hrest⟩ := startsWith_iff.mp hstarts
  exact h (List.cons.inj hrest).1

/-- A part of a text that lacks the first character of what is replaced is kept. -/
theorem replace_append_of_not_mem (h : c ∉ s) (old new t : Text) :
    replace (c :: old) new (s ++ t) = s ++ replace (c :: old) new t :=
  (Rule.ignoresLast_literal (c :: old) new).rewrite_append_of_not_mem
    (fun _ _ => Rule.literal_eq_none_of_ne) h

/-! ## The first occurrence -/

/-- A character at which what is replaced does not begin stays. -/
theorem replaceFirst_cons (h : after? old (c :: t) = none) :
    replaceFirst old new (c :: t) = c :: replaceFirst old new t := by
  rw [replaceFirst, replaceFirst, cutAt?, h]
  cases cutAt? old t <;> rfl

theorem replaceFirst_append_of_not_mem (h : c ∉ s) (old new t : Text) :
    replaceFirst (c :: old) new (s ++ t) = s ++ replaceFirst (c :: old) new t := by
  induction s with
  | nil => rfl
  | cons d s ih =>
    have hnone : after? (c :: old) (d :: (s ++ t)) = none :=
      if_neg (List.ne_of_not_mem_cons h)
    rw [List.cons_append, replaceFirst_cons hnone, ih (List.not_mem_of_not_mem_cons h),
      List.cons_append]

/-- What is replaced stands in front. -/
theorem replaceFirst_append (hold : old ≠ []) (new t : Text) :
    replaceFirst old new (old ++ t) = new ++ t := by
  obtain ⟨c, u, rfl⟩ := List.exists_cons_of_ne_nil hold
  have hcut : cutAt? (c :: u) (c :: (u ++ t)) = some ([], t) := by
    rw [cutAt?, ← List.cons_append, after?_append]
  rw [replaceFirst, List.cons_append, hcut]
  rfl

/-- A word that has its first character nowhere else is found on one side of that character. -/
theorem infix_append_cons_self_iff (h : c ∉ word) :
    c :: word <:+: s ++ c :: t ↔ c :: word <:+: s ∨ c :: word <:+: c :: t := by
  induction s with
  | nil => exact (or_iff_right (by simp)).symm
  | cons d s ih =>
    have hstart : c :: word <+: d :: (s ++ c :: t) ↔ c :: word <+: d :: s := by
      rw [List.cons_prefix_cons, List.cons_prefix_cons]
      refine and_congr_right fun _ => ⟨prefix_of_prefix_append_cons h, fun hword => ?_⟩
      exact hword.trans (List.prefix_append s _)
    rw [List.cons_append, List.infix_cons_iff, ih, hstart, ← or_assoc, ← List.infix_cons_iff]

/-- Where such a word is found first, there is no other before it. -/
theorem cutAt?_append (hc : c ∉ word) (h : ¬ c :: word <:+: s) (t : Text) :
    cutAt? (c :: word) (s ++ c :: (word ++ t)) = some (s, t) := by
  induction s with
  | nil =>
    have hafter : after? (c :: word) (c :: (word ++ t)) = some t := after?_append (c :: word) t
    rw [List.nil_append, cutAt?, hafter]
  | cons d s ih =>
    have hnone : after? (c :: word) (d :: (s ++ c :: (word ++ t))) = none := by
      refine Option.eq_none_iff_forall_ne_some.mpr fun rest hrest => h ?_
      obtain ⟨rfl, hbehind⟩ := List.cons.inj (after?_eq_some_iff.mp hrest)
      have hbegins := prefix_of_prefix_append_cons hc ⟨rest, hbehind.symm⟩
      exact (List.prefix_cons_inj d |>.mpr hbegins).isInfix
    have hs : ¬ c :: word <:+: s := fun hoccurs => h (hoccurs.trans (List.suffix_cons d s).isInfix)
    rw [List.cons_append, cutAt?, hnone, ih hs]
    rfl

/-- What stands before the first occurrence of such a word is seen from the whole text. -/
theorem eq_of_append_eq_append {s' t' : Text} (hc : c ∉ word) (hs : ¬ c :: word <:+: s)
    (hs' : ¬ c :: word <:+: s') (h : s ++ (c :: word ++ t) = s' ++ (c :: word ++ t')) :
    s = s' := by
  have hcut := cutAt?_append hc hs t
  rw [← List.cons_append, h, List.cons_append, cutAt?_append hc hs' t'] at hcut
  exact (congrArg Prod.fst (Option.some.inj hcut)).symm

/-! ## Words that no match reaches into -/

section Words

variable {last : Option Char} {change : Change}

/-- A rule leaves a word alone that begins with a character: what it recognises begins with no later
character of the word, and no place where the word begins belongs to it. -/
structure Rule.LeavesAlone (rule : Rule) (c : Char) (word : Text) : Prop where
  initial : ∀ {last d t change}, rule last d t = some change → d ∉ word
  split : ∀ {last d t change}, rule last d t = some change → ∃ m v, t = m ++ v ∧
    change.extra = m.length ∧ (c :: word <:+: d :: t → c :: word <:+: v)

/-- A rule makes no such word: what it writes has not the character that the word begins with, and
what is read from there on begins with no later character of the word. -/
structure Rule.MakesNo (rule : Rule) (c : Char) (word : Text) : Prop where
  text : ∀ {last d t change}, rule last d t = some change → c ∉ change.text
  next : ∀ {last d t change}, rule last d t = some change →
    ∀ e ∈ (change.text ++ rewriteFrom rule (some d) change.extra t).head?, e ∉ word

/-- A rule goes on behind what it recognises. -/
theorem rewriteFrom_of_some {m v : Text} (h : rule last d (m ++ v) = some change)
    (hextra : change.extra = m.length) : rewriteFrom rule last 0 (d :: (m ++ v)) =
      change.text ++ rewriteFrom rule (m.getLast?.or (some d)) 0 v := by
  rw [rewriteFrom, h]
  dsimp only
  rw [hextra, rewriteFrom_length_append]

theorem rewriteFrom_of_none (h : rule last d t = none) :
    rewriteFrom rule last 0 (d :: t) = d :: rewriteFrom rule (some d) 0 t := by
  rw [rewriteFrom, h]

/-- The rest of a word stays at the beginning of a text. -/
theorem Rule.LeavesAlone.prefix_rewriteFrom (h : rule.LeavesAlone c word) {tail : Text}
    (htail : tail ⊆ word) (hbegins : tail <+: t) : tail <+: rewriteFrom rule last 0 t := by
  induction tail generalizing t last with
  | nil => exact List.nil_prefix
  | cons d tail ih =>
    obtain ⟨rest, rfl⟩ := hbegins
    have hd := htail List.mem_cons_self
    cases hrule : rule last d (tail ++ rest) with
    | some change => exact absurd hd (h.initial hrule)
    | none =>
      rw [List.cons_append, rewriteFrom_of_none hrule, List.cons_prefix_cons]
      exact ⟨rfl, ih (fun e he => htail (List.mem_cons_of_mem d he)) (List.prefix_append _ _)⟩

/-- A word that is left alone stays in a text. -/
theorem Rule.LeavesAlone.infix_rewriteFrom (h : rule.LeavesAlone c word)
    (hoccurs : c :: word <:+: t) : c :: word <:+: rewriteFrom rule last 0 t := by
  induction hn : t.length using Nat.strongRecOn generalizing t last with
  | ind n ih =>
    cases t with
    | nil => simp at hoccurs
    | cons d t =>
      cases hrule : rule last d t with
      | some change =>
        obtain ⟨m, v, rfl, hextra, hsplit⟩ := h.split hrule
        rw [rewriteFrom_of_some hrule hextra]
        refine (ih v.length ?_ (hsplit hoccurs) rfl).trans (List.suffix_append _ _).isInfix
        rw [← hn, List.length_cons, List.length_append]
        omega
      | none =>
        rw [rewriteFrom_of_none hrule, List.infix_cons_iff]
        rcases List.infix_cons_iff.mp hoccurs with hstart | hoccurs
        · obtain ⟨hd, hword⟩ := List.cons_prefix_cons.mp hstart
          refine Or.inl (List.cons_prefix_cons.mpr ⟨hd, ?_⟩)
          exact h.prefix_rewriteFrom (List.Subset.refl word) hword
        · refine Or.inr (ih t.length ?_ hoccurs rfl)
          rw [← hn, List.length_cons]
          omega

/-- What begins like the rest of a word began so before. -/
theorem Rule.MakesNo.prefix_of_prefix_rewriteFrom (h : rule.MakesNo c word) {tail : Text}
    (htail : tail ⊆ word) (hbegins : tail <+: rewriteFrom rule last 0 t) : tail <+: t := by
  induction tail generalizing t last with
  | nil => exact List.nil_prefix
  | cons d tail ih =>
    cases t with
    | nil => exact hbegins
    | cons e t =>
      cases hrule : rule last e t with
      | some change =>
        obtain ⟨rest, hrest⟩ := hbegins
        rw [rewriteFrom, hrule] at hrest
        dsimp only at hrest
        have hhead := h.next hrule d
        rw [← hrest] at hhead
        exact absurd (htail List.mem_cons_self) (hhead rfl)
      | none =>
        rw [rewriteFrom_of_none hrule, List.cons_prefix_cons] at hbegins
        rw [List.cons_prefix_cons]
        exact ⟨hbegins.1, ih (fun f hf => htail (List.mem_cons_of_mem d hf)) hbegins.2⟩

/-- A word that a rule neither makes nor reaches into is found behind it exactly where it was. -/
theorem Rule.MakesNo.infix_rewriteFrom_iff (h : rule.MakesNo c word)
    (hleaves : rule.LeavesAlone c word) :
    c :: word <:+: rewriteFrom rule last 0 t ↔ c :: word <:+: t := by
  refine ⟨fun hoccurs => ?_, hleaves.infix_rewriteFrom⟩
  induction hn : t.length using Nat.strongRecOn generalizing t last with
  | ind n ih =>
    cases t with
    | nil => exact hoccurs
    | cons d t =>
      cases hrule : rule last d t with
      | some change =>
        obtain ⟨m, v, rfl, hextra, _⟩ := hleaves.split hrule
        rw [rewriteFrom_of_some hrule hextra,
          infix_append_iff_of_not_mem (h.text hrule)] at hoccurs
        refine (ih v.length ?_ hoccurs rfl).trans
          ((List.suffix_append m v).trans (List.suffix_cons d _)).isInfix
        rw [← hn, List.length_cons, List.length_append]
        omega
      | none =>
        rw [rewriteFrom_of_none hrule, List.infix_cons_iff] at hoccurs
        rw [List.infix_cons_iff]
        rcases hoccurs with hstart | hoccurs
        · obtain ⟨hd, hword⟩ := List.cons_prefix_cons.mp hstart
          refine Or.inl (List.cons_prefix_cons.mpr ⟨hd, ?_⟩)
          exact h.prefix_of_prefix_rewriteFrom (List.Subset.refl word) hword
        · refine Or.inr (ih t.length ?_ hoccurs rfl)
          rw [← hn, List.length_cons]
          omega

end Words

end Bindery.Text
