import Bindery.Header.Reader
import Mathlib.Tactic.SplitIfs

/-!
# Rows of entries

A row of entries is read from left to right with one way of reading up to each place, the heaviest
one. So a way of reading that ends where another one ends that is at least as heavy changes nothing,
and a reader may be given such ways or not: it reads the same rows.
-/

namespace Bindery.Header

namespace Parse

variable {α : Type}

/-! ### Places -/

theorem precedes_irrefl (a : Option Nat) : precedes a a = false := by
  cases a with
  | none => rfl
  | some a => exact decide_eq_false (Nat.lt_irrefl a)

theorem precedes_trans {a b c : Option Nat} (hab : precedes a b = true)
    (hbc : precedes b c = true) : precedes a c = true := by
  cases a <;> cases b <;> cases c <;> simp_all [precedes]
  omega

theorem precedes_of_not_precedes {a b : Option Nat} (hne : a ≠ b) (h : precedes a b = false) :
    precedes b a = true := by
  cases a <;> cases b <;> simp_all [precedes]
  omega

/-! ### Frontiers -/

/-- Ways to read that end at places one behind the other. -/
def IsFrontier (xs : List (Parse α)) : Prop :=
  xs.Pairwise fun x y => precedes x.place y.place = true

/-- One of some ways to read ends at the same place and is at least as heavy. -/
def IsMatched (x : Parse α) (xs : List (Parse α)) : Prop :=
  ∃ y ∈ xs, y.place = x.place ∧ x.weight ≤ y.weight

variable {x y : Parse α} {xs : List (Parse α)}

theorem mem_insert (h : y ∈ x.insert xs) : y = x ∨ y ∈ xs := by
  induction xs with
  | nil => exact Or.inl (List.mem_singleton.mp h)
  | cons z zs ih =>
    unfold insert at h
    split_ifs at h with hplace hweight hprecedes
    · rcases List.mem_cons.mp h with rfl | hzs
      · exact Or.inl rfl
      · exact Or.inr (List.mem_cons_of_mem z hzs)
    · exact Or.inr h
    · exact List.mem_cons.mp h
    · rcases List.mem_cons.mp h with rfl | hrest
      · exact Or.inr List.mem_cons_self
      · exact (ih hrest).imp_right (List.mem_cons_of_mem z)

theorem IsFrontier.insert (h : IsFrontier xs) : IsFrontier (x.insert xs) := by
  induction xs with
  | nil => exact List.pairwise_singleton _ x
  | cons z zs ih =>
    obtain ⟨hz, hzs⟩ := List.pairwise_cons.mp h
    unfold Parse.insert
    split_ifs with hplace hweight hprecedes
    · rw [beq_iff_eq] at hplace
      exact List.pairwise_cons.mpr ⟨by rwa [hplace], hzs⟩
    · exact h
    · refine List.pairwise_cons.mpr ⟨List.forall_mem_cons.mpr ⟨hprecedes, fun w hw => ?_⟩, h⟩
      exact precedes_trans hprecedes (hz w hw)
    · rw [beq_iff_eq] at hplace
      refine List.pairwise_cons.mpr ⟨fun w hw => ?_, ih hzs⟩
      rcases mem_insert hw with rfl | hw
      · exact precedes_of_not_precedes hplace (Bool.not_eq_true _ ▸ hprecedes)
      · exact hz w hw

theorem isMatched_insert_self (x : Parse α) (xs : List (Parse α)) :
    IsMatched x (x.insert xs) := by
  induction xs with
  | nil => exact ⟨x, List.mem_singleton_self x, rfl, Int.le_refl _⟩
  | cons z zs ih =>
    unfold insert
    split_ifs with hplace hweight hprecedes
    · exact ⟨x, List.mem_cons_self, rfl, Int.le_refl _⟩
    · exact ⟨z, List.mem_cons_self, (eq_of_beq hplace).symm, Int.not_lt.mp hweight⟩
    · exact ⟨x, List.mem_cons_self, rfl, Int.le_refl _⟩
    · obtain ⟨y, hy, hmatch⟩ := ih
      exact ⟨y, List.mem_cons_of_mem z hy, hmatch⟩

/-- What is matched stays so. -/
theorem IsMatched.insert (h : IsMatched x xs) : IsMatched x (y.insert xs) := by
  obtain ⟨w, hw, hplace, hweight⟩ := h
  induction xs with
  | nil => cases hw
  | cons z zs ih =>
    unfold Parse.insert
    split_ifs with hyz hlighter hprecedes
    · rcases List.mem_cons.mp hw with rfl | hw
      · rw [beq_iff_eq] at hyz
        exact ⟨y, List.mem_cons_self, hyz.trans hplace, Int.le_trans hweight (Int.le_of_lt hlighter)⟩
      · exact ⟨w, List.mem_cons_of_mem y hw, hplace, hweight⟩
    · exact ⟨w, hw, hplace, hweight⟩
    · exact ⟨w, List.mem_cons_of_mem y hw, hplace, hweight⟩
    · rcases List.mem_cons.mp hw with rfl | hw
      · exact ⟨w, List.mem_cons_self, hplace, hweight⟩
      · obtain ⟨v, hv, hmatch⟩ := ih hw
        exact ⟨v, List.mem_cons_of_mem z hv, hmatch⟩

/-- A way to read that is matched adds nothing. -/
theorem insert_eq_self (hxs : IsFrontier xs) (h : IsMatched x xs) : x.insert xs = xs := by
  obtain ⟨w, hw, hplace, hweight⟩ := h
  induction xs with
  | nil => cases hw
  | cons z zs ih =>
    obtain ⟨hz, hzs⟩ := List.pairwise_cons.mp hxs
    rcases List.mem_cons.mp hw with rfl | hw
    · unfold insert
      rw [if_pos (beq_iff_eq.mpr hplace.symm), if_neg (Int.not_lt.mpr hweight)]
    · -- The one that matches it stands further behind.
      have hbehind : precedes z.place x.place = true := hplace ▸ hz w hw
      have hne : (x.place == z.place) = false := by
        rw [beq_eq_false_iff_ne]
        intro heq
        rw [heq, precedes_irrefl] at hbehind
        cases hbehind
      have hnot : precedes x.place z.place = false := by
        rw [Bool.eq_false_iff]
        intro hbefore
        have hself := precedes_trans hbefore hbehind
        rw [precedes_irrefl] at hself
        cases hself
      unfold insert
      rw [hne, hnot]
      exact congrArg (z :: ·) (ih hzs hw)

end Parse

namespace Reader

variable {α : Type} {entry entry' : Reader α} {ps : List Piece}

/-- A list of pieces that an entry begins, when all pieces are read as a row of entries. -/
inductive Begins (entry : Reader α) (ps : List Piece) : List Piece → Prop
  /-- The first entry begins them. -/
  | first : Begins entry ps ps
  /-- The entry behind another one does. -/
  | next {rest : List Piece} {x : Parse α} : Begins entry ps rest → x ∈ entry rest →
      Begins entry ps (rest.dropWhile (·.precedes x.place))

/-- A row with one entry more, if the entry takes a piece. -/
def grow? (x : Parse (Row α)) (y : Parse α) : Option (Parse (Row α)) :=
  match x.rest.takeWhile (·.precedes y.place) with
  | [] => none
  | source =>
    some ⟨(y.value, source) :: x.value, x.weight + y.weight,
      x.rest.dropWhile (·.precedes y.place)⟩

theorem extend_eq (x : Parse (Row α)) : extend entry x = (entry x.rest).filterMap (grow? x) := rfl

/-- A row that grows by a heavier entry up to the same place is heavier. -/
theorem isMatched_grow {x z : Parse (Row α)} {y : Parse α} {ys : List (Parse α)}
    (hmatched : Parse.IsMatched y ys) (hz : grow? x y = some z) :
    Parse.IsMatched z (ys.filterMap (grow? x)) := by
  obtain ⟨w, hw, hplace, hweight⟩ := hmatched
  rw [grow?] at hz
  cases hsource : x.rest.takeWhile (·.precedes y.place) with
  | nil =>
    rw [hsource] at hz
    cases hz
  | cons q source =>
    rw [hsource] at hz
    cases hz
    refine ⟨⟨(w.value, q :: source) :: x.value, x.weight + w.weight,
      x.rest.dropWhile (·.precedes w.place)⟩, List.mem_filterMap.mpr ⟨w, hw, ?_⟩, ?_, ?_⟩
    · rw [grow?, hplace, hsource]
    · rw [hplace]
      rfl
    · exact Int.add_le_add_left hweight x.weight

section Absorb

variable {β : Type}

/-- Add ways to read to a frontier. -/
def absorb (xs ys : List (Parse β)) : List (Parse β) := ys.foldl (fun zs y => y.insert zs) xs

variable {x : Parse β} {xs ys : List (Parse β)}

theorem mem_absorb (h : x ∈ absorb xs ys) : x ∈ xs ∨ x ∈ ys := by
  induction ys generalizing xs with
  | nil => exact Or.inl h
  | cons y ys ih =>
    rcases ih h with hinsert | hys
    · rcases Parse.mem_insert hinsert with rfl | hxs
      · exact Or.inr List.mem_cons_self
      · exact Or.inl hxs
    · exact Or.inr (List.mem_cons_of_mem y hys)

theorem isFrontier_absorb (h : Parse.IsFrontier xs) (ys : List (Parse β)) :
    Parse.IsFrontier (absorb xs ys) := by
  induction ys generalizing xs with
  | nil => exact h
  | cons y ys ih => exact ih h.insert

theorem isMatched_absorb (h : Parse.IsMatched x xs) (ys : List (Parse β)) :
    Parse.IsMatched x (absorb xs ys) := by
  induction ys generalizing xs with
  | nil => exact h
  | cons y ys ih => exact ih h.insert

theorem isMatched_absorb_of_isMatched (h : Parse.IsMatched x ys) :
    Parse.IsMatched x (absorb xs ys) := by
  obtain ⟨w, hw, hplace, hweight⟩ := h
  induction ys generalizing xs with
  | nil => cases hw
  | cons y ys ih =>
    rcases List.mem_cons.mp hw with rfl | hw
    · obtain ⟨v, hv, hplace', hweight'⟩ := isMatched_absorb (Parse.isMatched_insert_self w xs) ys
      exact ⟨v, hv, hplace'.trans hplace, Int.le_trans hweight hweight'⟩
    · exact ih hw

end Absorb

variable {x : Parse (Row α)} {xs : List (Parse (Row α))}

/-- Where rows that grow by some entries are matched, these entries may be left out. -/
theorem absorb_filter (x : Parse (Row α)) {entries : List (Bool × Parse α)}
    (hxs : Parse.IsFrontier xs)
    (h : ∀ e ∈ entries, e.1 = false → ∀ z, grow? x e.2 = some z → Parse.IsMatched z xs) :
    absorb xs (((entries.filter (·.1)).map (·.2)).filterMap (grow? x)) =
      absorb xs ((entries.map (·.2)).filterMap (grow? x)) := by
  induction entries generalizing xs with
  | nil => rfl
  | cons e entries ih =>
    obtain ⟨he, hentries⟩ := List.forall_mem_cons.mp h
    obtain ⟨kept, y⟩ := e
    cases kept with
    | false =>
      rw [List.filter_cons_of_neg Bool.false_ne_true, ih hxs hentries, List.map_cons,
        List.filterMap_cons]
      cases hz : grow? x y with
      | none => rfl
      | some z => rw [absorb, absorb, List.foldl_cons, Parse.insert_eq_self hxs (he rfl z hz)]
    | true =>
      rw [List.filter_cons_of_pos rfl, List.map_cons, List.map_cons, List.filterMap_cons,
        List.filterMap_cons]
      cases hz : grow? x y with
      | none => exact ih hxs hentries
      | some z =>
        exact ih hxs.insert fun w hw hp v hv => (hentries w hw hp v hv).insert

/-- At some pieces a reader gives the ways to read that another one gives, but for some that are
matched by ways before them. A flag says which ones both give. -/
def LeavesOutMatched (entry entry' : Reader α) (rest : List Piece) : Prop :=
  ∃ before after, ∃ between : List (Bool × Parse α),
    entry rest = before ++ ((between.filter (·.1)).map (·.2) ++ after) ∧
      entry' rest = before ++ (between.map (·.2) ++ after) ∧
      ∀ e ∈ between, e.1 = false → Parse.IsMatched e.2 before

theorem LeavesOutMatched.absorb_extend (h : LeavesOutMatched entry entry' x.rest)
    (hxs : Parse.IsFrontier xs) :
    absorb xs (extend entry' x) = absorb xs (extend entry x) := by
  obtain ⟨before, after, between, hentry, hentry', hmatched⟩ := h
  have hbetween := absorb_filter x
    (isFrontier_absorb hxs (before.filterMap (grow? x))) fun e he hkept z hz =>
      isMatched_absorb_of_isMatched (isMatched_grow (hmatched e he hkept) hz)
  simp only [absorb] at hbetween
  simp only [extend_eq, hentry, hentry', absorb, List.filterMap_append, List.foldl_append, hbetween]

/-- What stands from the beginning of an entry on is the end of it all. -/
theorem Begins.suffix {rest : List Piece} (h : Begins entry ps rest) : rest <:+ ps := by
  induction h with
  | first => exact List.suffix_refl ps
  | next _ _ ih => exact (List.dropWhile_suffix _).trans ih

theorem begins_of_mem_extend {y : Parse (Row α)} (hx : Begins entry ps x.rest)
    (hy : y ∈ extend entry x) : Begins entry ps y.rest := by
  rw [extend_eq] at hy
  obtain ⟨z, hz, hgrow⟩ := List.mem_filterMap.mp hy
  unfold grow? at hgrow
  split at hgrow
  · cases hgrow
  · cases hgrow
    exact hx.next hz

theorem allFrom_eq
    (h : ∀ rest, rest ≠ [] → Begins entry ps rest → LeavesOutMatched entry entry' rest) (n : Nat)
    (hxs : Parse.IsFrontier xs) (hbegins : ∀ x ∈ xs, Begins entry ps x.rest) :
    allFrom entry' n xs = allFrom entry n xs := by
  induction n generalizing xs with
  | zero => rfl
  | succ n ih =>
    cases xs with
    | nil => rfl
    | cons x xs =>
      obtain ⟨hx, hrest⟩ := List.forall_mem_cons.mp hbegins
      have hfrontier : Parse.IsFrontier xs := (List.pairwise_cons.mp hxs).2
      unfold allFrom
      split
      · rfl
      · next hpiece =>
        have hne : x.rest ≠ [] := by
          rw [hpiece]
          exact List.cons_ne_nil _ _
        have hrows := (h x.rest hne hx).absorb_extend hfrontier
        rw [absorb, absorb] at hrows
        rw [hrows]
        refine ih (isFrontier_absorb hfrontier _) fun y hy => ?_
        rcases mem_absorb hy with hy | hy
        · exact hrest y hy
        · exact begins_of_mem_extend hx hy

/-- **Rows of entries** are read alike by two readers of which one leaves out ways to read that are
matched. -/
theorem allWithSource_eq
    (h : ∀ rest, rest ≠ [] → Begins entry ps rest → LeavesOutMatched entry entry' rest) :
    allWithSource entry' ps = allWithSource entry ps :=
  allFrom_eq h _ (List.pairwise_singleton _ _) (List.forall_mem_singleton.mpr Begins.first)

/-! ### Rows that are not empty -/

theorem value_ne_nil_of_mem_extend {y : Parse (Row α)} (hy : y ∈ extend entry x) :
    y.value ≠ [] := by
  rw [extend_eq] at hy
  obtain ⟨z, -, hgrow⟩ := List.mem_filterMap.mp hy
  unfold grow? at hgrow
  split at hgrow
  · cases hgrow
  · cases hgrow
    exact List.cons_ne_nil _ _

theorem value_ne_nil_of_allFrom {n : Nat} {w : Weighted (Row α)}
    (hxs : ∀ x ∈ xs, x.value = [] → x.rest ≠ []) (h : allFrom entry n xs = some w) :
    w.value ≠ [] := by
  induction n generalizing xs with
  | zero => cases h
  | succ n ih =>
    cases xs with
    | nil => cases h
    | cons x xs =>
      obtain ⟨hx, hrest⟩ := List.forall_mem_cons.mp hxs
      unfold allFrom at h
      split at h
      · next hnil =>
        cases h
        exact fun hvalue => hx (List.reverse_eq_nil_iff.mp hvalue) hnil
      · refine ih (fun y hy => ?_) h
        rcases mem_absorb hy with hy | hy
        · exact hrest y hy
        · exact fun hvalue => absurd hvalue (value_ne_nil_of_mem_extend hy)

/-- What is not empty is read as a row that is not. -/
theorem value_ne_nil_of_allWithSource {w : Weighted (Row α)} (hps : ps ≠ [])
    (h : allWithSource entry ps = some w) : w.value ≠ [] :=
  value_ne_nil_of_allFrom (List.forall_mem_singleton.mpr fun _ => hps) h

end Reader

end Bindery.Header
