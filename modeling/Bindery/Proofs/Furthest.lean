import Bindery.Proofs.PhraseFront
import Bindery.Proofs.Pieces
import Mathlib.Tactic.ByContra

/-!
# The way to read that goes furthest

A reader may read the same pieces in several ways, but mostly one of them goes further than the
others, and where another one goes as far it is lighter. If what follows cannot go on from any of
the others, a whole phrase is read in one way only, and a row of such phrases is read as just them.
-/

namespace Bindery.Header

/-! ### Places of what is left -/

section Places

open Piece

variable {ps front rest rest' : List Piece}

/-- Of two ends of ordered pieces the longer one begins first. -/
theorem Piece.AreOrdered.precedes (hps : AreOrdered ps) (h : rest <:+ ps) (h' : rest' <:+ ps)
    (hlength : rest'.length < rest.length) :
    Parse.precedes (rest.head?.map place) (rest'.head?.map place) = true := by
  cases rest with
  | nil => exact absurd hlength (Nat.not_lt_zero _)
  | cons q qs =>
    have hsuffix : rest' <:+ qs := by
      have hle : rest' <:+ q :: qs := List.suffix_of_suffix_length_le h' h (Nat.le_of_lt hlength)
      rcases List.suffix_cons_iff.mp hle with rfl | hqs
      · exact absurd hlength (Nat.lt_irrefl _)
      · exact hqs
    have hordered := hps.places.sublist h.sublist
    cases rest' with
    | nil => rfl
    | cons q' qs' =>
      exact decide_eq_true
        ((List.pairwise_cons.mp hordered).1 q' (hsuffix.subset List.mem_cons_self))

/-- Ends of ordered pieces that begin at the same place are the same. -/
theorem Piece.AreOrdered.eq_of_place (hps : AreOrdered ps) (h : rest <:+ ps) (h' : rest' <:+ ps)
    (hplace : rest.head?.map place = rest'.head?.map place) : rest = rest' := by
  have hne : ∀ {a b : List Piece}, a <:+ ps → b <:+ ps →
      a.head?.map place = b.head?.map place → ¬ b.length < a.length := by
    intro a b ha hb hab hlt
    have hprecedes := hps.precedes ha hb hlt
    rw [hab, Parse.precedes_irrefl] at hprecedes
    cases hprecedes
  have hlength : rest.length = rest'.length :=
    Nat.le_antisymm (Nat.not_lt.mp (hne h h' hplace)) (Nat.not_lt.mp (hne h' h hplace.symm))
  exact (List.suffix_of_suffix_length_le h h' (Nat.le_of_eq hlength)).eq_of_length hlength

theorem precedes_of_mem_front (hps : AreOrdered (front ++ rest)) {p : Piece} (hp : p ∈ front) :
    p.precedes (rest.head?.map place) = true := by
  cases rest with
  | nil => rfl
  | cons q qs =>
    have hbefore := (List.pairwise_append.mp hps.places).2.2
    exact decide_eq_true (hbefore p hp q List.mem_cons_self)

theorem precedes_head (q : Piece) (qs : List Piece) :
    q.precedes ((q :: qs).head?.map place) = false :=
  decide_eq_false (Nat.lt_irrefl _)

/-- The pieces before an end of ordered pieces are those before the place where it begins. -/
theorem takeWhile_precedes (hps : AreOrdered (front ++ rest)) :
    (front ++ rest).takeWhile (·.precedes (rest.head?.map place)) = front := by
  rw [List.takeWhile_append_of_pos fun p hp => precedes_of_mem_front hps hp]
  cases rest with
  | nil => simp
  | cons q qs =>
    simp only [List.takeWhile_cons, precedes_head, Bool.false_eq_true, if_false, List.append_nil]

theorem dropWhile_precedes (hps : AreOrdered (front ++ rest)) :
    (front ++ rest).dropWhile (·.precedes (rest.head?.map place)) = rest := by
  rw [List.dropWhile_append_of_pos fun p hp => precedes_of_mem_front hps hp]
  cases rest with
  | nil => rfl
  | cons q qs => simp only [List.dropWhile_cons, precedes_head, Bool.false_eq_true, if_false]

end Places

namespace Reader

variable {α β : Type} {r s : Reader α} {f : α → Reader β} {ps rest : List Piece} {a : α}
  {x : Parse α} {z : Parse β}

/-! ### Equations -/

/-- A way to read with something before it that has a weight. -/
def behind (w : Int) (x : Parse α) : Parse α := { x with weight := w + x.weight }

@[simp] theorem behind_mk (w w' : Int) (a : α) (rest : List Piece) :
    behind w ⟨a, w', rest⟩ = ⟨a, w + w', rest⟩ := rfl

@[simp] theorem behind_zero (x : Parse α) : behind 0 x = x := by
  simp [behind]

theorem bind_apply (r : Reader α) (f : α → Reader β) (ps : List Piece) :
    (r >>= f) ps = (r ps).flatMap fun x => (f x.value x.rest).map (behind x.weight) := rfl

theorem orElse_apply (r s : Reader α) (ps : List Piece) : (r <|> s) ps = r ps ++ s ps := rfl

theorem pure_apply (a : α) (ps : List Piece) : (pure a : Reader α) ps = [⟨a, 0, ps⟩] := rfl

/-- What cannot begin cannot go on. -/
theorem bind_eq_nil (h : r ps = []) : (r >>= f) ps = [] := by
  rw [bind_apply, h, List.flatMap_nil]

theorem bind_of_eq_weighted {w : Int} (h : r ps = [⟨a, w, rest⟩]) :
    (r >>= f) ps = (f a rest).map (behind w) := by
  rw [bind_apply, h, List.flatMap_singleton]

/-- A weight is added to what follows. -/
theorem weigh_bind (w : Int) (f : Unit → Reader β) (ps : List Piece) :
    (weigh w >>= f) ps = (f () ps).map (behind w) :=
  List.flatMap_singleton _ _

/-- What has been read in one way goes on as what follows does. -/
theorem bind_of_eq (h : r ps = [⟨a, 0, rest⟩]) : (r >>= f) ps = f a rest := by
  rw [bind_of_eq_weighted h]
  exact (List.map_congr_left fun x _ => behind_zero x).trans (List.map_id _)

theorem orElse_of_left_eq_nil (h : r ps = []) : (r <|> s) ps = s ps := by
  rw [orElse_apply, h, List.nil_append]

theorem orElse_of_right_eq_nil (h : s ps = []) : (r <|> s) ps = r ps := by
  rw [orElse_apply, h, List.append_nil]

theorem orElse_eq_nil (hr : r ps = []) (hs : s ps = []) : (r <|> s) ps = [] := by
  rw [orElse_apply, hr, hs, List.append_nil]

theorem optional_of_eq_nil (h : r ps = []) : optional r ps = [⟨none, 0, ps⟩] := by
  rw [optional, orElse_of_left_eq_nil (bind_eq_nil h), pure_apply]

theorem settle_eq_nil (h : r ps = []) : settle r ps = [] := by
  rw [settle_eq_absorb, h]
  rfl

theorem settle_of_eq (h : r ps = [x]) : settle r ps = [x] := by
  rw [settle_eq_absorb, h]
  rfl

theorem check_eq {f : List Piece → Bool} (h : f ps = true) : check f ps = [⟨(), 0, ps⟩] := if_pos h

theorem check_eq_nil {f : List Piece → Bool} (h : f ps = false) : check f ps = [] := by
  rw [check, h]
  rfl

theorem withSource_of_eq {w : Int} (h : r ps = [⟨a, w, rest⟩]) :
    withSource r ps =
      [⟨(a, ps.takeWhile (·.precedes (rest.head?.map Piece.place))), w, rest⟩] := by
  rw [withSource, h]
  rfl

/-- What is read in one way is given with its pieces. -/
theorem withSource_eq {front : List Piece} {w : Int} (h : r (front ++ rest) = [⟨a, w, rest⟩])
    (hordered : Piece.AreOrdered (front ++ rest)) :
    withSource r (front ++ rest) = [⟨(a, front), w, rest⟩] := by
  rw [withSource_of_eq h, takeWhile_precedes hordered]

/-- Where what follows cannot go on, nothing is read. -/
theorem bind_eq_nil_of_forall (h : ∀ x ∈ r ps, f x.value x.rest = []) : (r >>= f) ps = [] := by
  rw [bind_apply, List.flatMap_eq_nil_iff]
  intro x hx
  rw [h x hx, List.map_nil]

theorem bind_eq_nil_of_suffix [hr : TakesFront r] (h : ∀ a, ∀ rest, rest <:+ ps → f a rest = []) :
    (r >>= f) ps = [] :=
  bind_eq_nil_of_forall fun x hx => h x.value x.rest (hr.suffix hx)

/-- What is optional leaves what it leaves, or everything. -/
theorem rest_of_mem_optional {x : Parse (Option α)} (h : x ∈ optional r ps) :
    (∃ y ∈ r ps, x.rest = y.rest) ∨ x.rest = ps := by
  rcases mem_orElse.mp h with h | h
  · obtain ⟨y, hy, z, hz, rfl⟩ := mem_bind.mp h
    obtain rfl := mem_pure.mp hz
    exact Or.inl ⟨y, hy, rfl⟩
  · obtain rfl := mem_pure.mp h
    exact Or.inr rfl

/-! ### The furthest way -/

/-- One way to read some pieces goes further than any other, but for lighter ones that go as
far. -/
structure Leads (r : Reader α) (ps : List Piece) (x : Parse α) : Prop where
  /-- It is a way to read them. -/
  mem : x ∈ r ps
  /-- Others leave more, or leave as much and are lighter. -/
  others : ∀ y ∈ r ps, y = x ∨ x.rest.length < y.rest.length ∨
    (y.rest = x.rest ∧ y.weight < x.weight)

/-- One way to read some pieces goes further than any other. -/
structure IsFurthest (r : Reader α) (ps : List Piece) (x : Parse α) : Prop where
  /-- It is a way to read them. -/
  mem : x ∈ r ps
  /-- Others leave more. -/
  others : ∀ y ∈ r ps, y = x ∨ x.rest.length < y.rest.length

/-- There is only one way to read some pieces. -/
structure ReadsOnly (r : Reader α) (ps : List Piece) (x : Parse α) : Prop where
  /-- It is a way to read them. -/
  mem : x ∈ r ps
  /-- There are no others. -/
  others : ∀ y ∈ r ps, y = x

theorem ReadsOnly.isFurthest (h : ReadsOnly r ps x) : IsFurthest r ps x :=
  ⟨h.mem, fun y hy => Or.inl (h.others y hy)⟩

/-- What matters of a reader are its ways to read. -/
theorem IsFurthest.of_eq {s : Reader α} {qs : List Piece} (h : IsFurthest s qs x)
    (heq : r ps = s qs) : IsFurthest r ps x := by
  obtain ⟨hmem, hothers⟩ := h
  rw [← heq] at hmem hothers
  exact ⟨hmem, hothers⟩

theorem ReadsOnly.of_eq {s : Reader α} {qs : List Piece} (h : ReadsOnly s qs x)
    (heq : r ps = s qs) : ReadsOnly r ps x := by
  obtain ⟨hmem, hothers⟩ := h
  rw [← heq] at hmem hothers
  exact ⟨hmem, hothers⟩

theorem readsOnly_of_eq (h : r ps = [x]) : ReadsOnly r ps x :=
  ⟨h ▸ List.mem_singleton_self x, fun _ hy => List.mem_singleton.mp (h ▸ hy)⟩

/-- **Settling** keeps the heaviest of the ways that go as far. -/
theorem Leads.settle [hr : TakesFront r] (h : Leads r ps x) (hps : Piece.AreOrdered ps) :
    IsFurthest (settle r) ps x := by
  have hfrontier : Parse.IsFrontier (Reader.settle r ps) :=
    isFrontier_absorb List.Pairwise.nil (r ps)
  have hmem : x ∈ Reader.settle r ps := by
    obtain ⟨y, hy, hplace, hweight⟩ : Parse.IsMatched x (Reader.settle r ps) :=
      isMatched_absorb_of_isMatched ⟨x, h.mem, rfl, Int.le_refl _⟩
    have hread := mem_settle r hy
    have hrest : y.rest = x.rest := hps.eq_of_place (hr.suffix hread) (hr.suffix h.mem) hplace
    rcases h.others y hread with rfl | hlonger | ⟨_, hlighter⟩
    · exact hy
    · rw [hrest] at hlonger
      exact absurd hlonger (Nat.lt_irrefl _)
    · exact absurd hlighter (Int.not_lt.mpr hweight)
  refine ⟨hmem, fun y hy => ?_⟩
  rcases h.others y (mem_settle r hy) with heq | hlonger | ⟨hrest, _⟩
  · exact Or.inl heq
  · exact Or.inr hlonger
  · -- Two ways that end at one place do not both stay.
    left
    by_contra hne
    have hplace : y.place = x.place := congrArg (fun ps => ps.head?.map Piece.place) hrest
    have hirrefl : ∀ {u v : Parse α}, u.place = v.place →
        ¬ Parse.precedes u.place v.place = true := by
      intro u v huv hprecedes
      rw [huv, Parse.precedes_irrefl] at hprecedes
      cases hprecedes
    obtain ⟨i, hi, rfl⟩ := List.getElem_of_mem hy
    obtain ⟨j, hj, rfl⟩ := List.getElem_of_mem hmem
    rcases Nat.lt_trichotomy i j with hij | rfl | hij
    · exact hirrefl hplace (List.pairwise_iff_getElem.mp hfrontier i j hi hj hij)
    · exact hne rfl
    · exact hirrefl hplace.symm (List.pairwise_iff_getElem.mp hfrontier j i hj hi hij)

theorem IsFurthest.leads (h : IsFurthest r ps x) : Leads r ps x :=
  ⟨h.mem, fun y hy => (h.others y hy).imp_right Or.inl⟩

theorem IsFurthest.settle [TakesFront r] (h : IsFurthest r ps x) (hps : Piece.AreOrdered ps) :
    IsFurthest (settle r) ps x :=
  h.leads.settle hps

/-- Where what follows goes on from the furthest way only, nothing else is read. -/
theorem IsFurthest.bind (h : IsFurthest r ps x)
    (hdead : ∀ y ∈ r ps, x.rest.length < y.rest.length → f y.value y.rest = [])
    (hf : ReadsOnly (f x.value) x.rest z) : ReadsOnly (r >>= f) ps (behind x.weight z) := by
  refine ⟨mem_bind.mpr ⟨x, h.mem, z, hf.mem, rfl⟩, fun y hy => ?_⟩
  obtain ⟨u, hu, v, hv, rfl⟩ := mem_bind.mp hy
  rcases h.others u hu with rfl | hlonger
  · rw [hf.others v hv]
    rfl
  · rw [hdead u hu hlonger] at hv
    exact absurd hv List.not_mem_nil

/-- Where what follows takes nothing, the same way goes furthest. -/
theorem IsFurthest.bind_of_forall {b : β} (h : IsFurthest r ps x)
    (hkeeps : ∀ y ∈ r ps, ∃ b, f y.value y.rest = [⟨b, 0, y.rest⟩])
    (hf : f x.value x.rest = [⟨b, 0, x.rest⟩]) :
    IsFurthest (r >>= f) ps ⟨b, x.weight, x.rest⟩ := by
  have hmem : ∀ y : Parse α, ∀ b, y ∈ r ps → f y.value y.rest = [⟨b, 0, y.rest⟩] →
      (⟨b, y.weight, y.rest⟩ : Parse β) ∈ (r >>= f) ps := fun y b hy hread =>
    mem_bind.mpr ⟨y, hy, ⟨b, 0, y.rest⟩, by simp [hread], by simp⟩
  refine ⟨hmem x b h.mem hf, fun z hz => ?_⟩
  obtain ⟨y, hy, v, hv, rfl⟩ := mem_bind.mp hz
  obtain ⟨c, hread⟩ := hkeeps y hy
  rw [hread, List.mem_singleton] at hv
  subst hv
  rcases h.others y hy with rfl | hlonger
  · rw [hf, List.cons.injEq] at hread
    exact Or.inl (by rw [← hread.1]; simp)
  · exact Or.inr hlonger

theorem ReadsOnly.bind (h : ReadsOnly r ps x) (hf : IsFurthest (f x.value) x.rest z) :
    IsFurthest (r >>= f) ps (behind x.weight z) := by
  refine ⟨mem_bind.mpr ⟨x, h.mem, z, hf.mem, rfl⟩, fun y hy => ?_⟩
  obtain ⟨u, hu, v, hv, rfl⟩ := mem_bind.mp hy
  obtain rfl := h.others u hu
  exact (hf.others v hv).imp (fun heq => by rw [heq]; rfl) id

theorem IsFurthest.orElse_left (h : IsFurthest r ps x)
    (hs : ∀ y ∈ s ps, y = x ∨ x.rest.length < y.rest.length) : IsFurthest (r <|> s) ps x :=
  ⟨mem_orElse.mpr (Or.inl h.mem), fun y hy => (mem_orElse.mp hy).elim (h.others y) (hs y)⟩

/-- What is left beyond the end of some pieces begins with one of them. -/
theorem exists_mem_of_length_lt {front rest' : List Piece} (h : rest' <:+ front ++ rest)
    (hlength : rest.length < rest'.length) : ∃ p ∈ front, ∃ ps, rest' = p :: ps := by
  rcases List.suffix_or_suffix_of_suffix h (List.suffix_append front rest) with hle | ⟨mid, rfl⟩
  · exact absurd hle.length_le (Nat.not_le.mpr hlength)
  · cases mid with
    | nil => exact absurd hlength (Nat.lt_irrefl _)
    | cons p mid =>
      obtain ⟨before, hbefore⟩ := h
      rw [← List.append_assoc] at hbefore
      have hfront : before ++ p :: mid = front := List.append_cancel_right hbefore
      exact ⟨p, hfront ▸ by simp, _, rfl⟩

/-- All pieces are read as one thing. -/
theorem Leads.whole [TakesFront r] {w : Int} (h : Leads r ps ⟨a, w, []⟩)
    (hps : Piece.AreOrdered ps) : Reader.whole r ps = some ⟨a, w⟩ := by
  have hfurthest := h.settle hps
  have hlast : (Reader.settle r ps).getLast? = some ⟨a, w, []⟩ := by
    obtain ⟨i, hi, hx⟩ := List.getElem_of_mem hfurthest.mem
    have hfrontier : Parse.IsFrontier (Reader.settle r ps) :=
      isFrontier_absorb List.Pairwise.nil (r ps)
    -- Nothing comes behind the way that leaves nothing.
    have hend : i + 1 = (Reader.settle r ps).length := by
      by_contra hne
      have hnext : i + 1 < (Reader.settle r ps).length := by omega
      have hprecedes := List.pairwise_iff_getElem.mp hfrontier i (i + 1) hi hnext (by omega)
      rw [hx] at hprecedes
      cases hprecedes
    rw [List.getLast?_eq_getElem?, ← hend, Nat.add_sub_cancel, List.getElem?_eq_getElem hi, hx]
  rw [Reader.whole, hlast]
  rfl

/-- What is read once only, as no comma follows any way to read it. -/
theorem IsFurthest.commas (h : IsFurthest r ps x)
    (hcomma : ∀ y ∈ r ps, y.rest.head?.any (·.isMark ',') = false) (hps : ps ≠ []) :
    IsFurthest (commas r) ps ⟨[x.value], x.weight, x.rest⟩ := by
  obtain ⟨p, ps, rfl⟩ := List.exists_cons_of_ne_nil hps
  have hmark : ∀ y ∈ r (p :: ps), mark ',' y.rest = [] := by
    intro y hy
    have hfirst := hcomma y hy
    cases hrest : y.rest with
    | nil => rfl
    | cons q qs =>
      have hq : q.isMark ',' = false := by rwa [hrest] at hfirst
      rw [mark, piece, hq]
      rfl
  let more (a : α) : Reader (List α) :=
    (do mark ','; let as ← separatedUpTo (mark ',') r ps.length; return a :: as) <|> pure [a]
  have hread : ∀ y ∈ r (p :: ps), more y.value y.rest = [⟨[y.value], 0, y.rest⟩] :=
    fun y hy => orElse_of_left_eq_nil (bind_eq_nil (hmark y hy))
  have hone : IsFurthest (r >>= more) (p :: ps) ⟨[x.value], x.weight, x.rest⟩ :=
    h.bind_of_forall (fun y hy => ⟨_, hread y hy⟩) (hread x h.mem)
  exact ⟨hone.mem, hone.others⟩

/-- Things with commas between them begin with one of them, and are just that one where no comma
follows it. -/
theorem exists_of_mem_commas {y : Parse (List α)} (hy : y ∈ commas r ps) :
    ∃ x ∈ r ps, (∃ as, y.value = x.value :: as) ∧ (mark ',' x.rest = [] → y.rest = x.rest) := by
  cases ps with
  | nil => exact absurd hy List.not_mem_nil
  | cons p ps =>
    obtain ⟨x, hx, z, hz, rfl⟩ := mem_bind.mp hy
    refine ⟨x, hx, ?_⟩
    rcases mem_orElse.mp hz with hz | hz
    · refine ⟨?_, fun hcomma => absurd (bind_eq_nil hcomma ▸ hz) List.not_mem_nil⟩
      obtain ⟨u, -, v, hv, rfl⟩ := mem_bind.mp hz
      obtain ⟨as, -, t, ht, rfl⟩ := mem_bind.mp hv
      obtain rfl := mem_pure.mp ht
      exact ⟨as.value, rfl⟩
    · obtain rfl := mem_pure.mp hz
      exact ⟨⟨[], rfl⟩, fun _ => rfl⟩

theorem commas_eq_nil (h : r ps = []) : commas r ps = [] := by
  cases ps with
  | nil => rfl
  | cons p ps => exact bind_eq_nil h

/-! ### Rows -/

/-- Some pieces are a row of entries, each read in one way only, with values and a weight. -/
inductive IsRow (entry : Reader α) : List Piece → List α → Int → Prop
  /-- Nothing is left. -/
  | nil : IsRow entry [] [] 0
  /-- One entry more. -/
  | cons {ps rest : List Piece} {a : α} {as : List α} {w w' : Int} :
      ReadsOnly entry ps ⟨a, w, rest⟩ → rest <:+ ps → rest.length < ps.length →
      IsRow entry rest as w' → IsRow entry ps (a :: as) (w + w')

variable {entry : Reader α} {as : List α} {w : Int}

/-- What is known already adds nothing. -/
theorem absorb_eq_self {x : Parse α} {xs : List (Parse α)} (h : ∀ y ∈ xs, y = x) :
    absorb [x] xs = [x] := by
  induction xs with
  | nil => rfl
  | cons y ys ih =>
    obtain ⟨rfl, hys⟩ := List.forall_mem_cons.mp h
    have hinsert : y.insert [y] = [y] := by simp [Parse.insert]
    rw [absorb, List.foldl_cons, hinsert]
    exact ih hys

/-- An entry that is read in one way only is added to a row that has been read so far. -/
theorem absorb_extend_of_readsOnly {x : Parse (Row α)} (hx : Piece.AreOrdered x.rest)
    (h : ReadsOnly entry x.rest ⟨a, w, rest⟩) (hsuffix : rest <:+ x.rest)
    (hlength : rest.length < x.rest.length) :
    ∃ source, absorb [] (extend entry x) =
      [⟨(a, source) :: x.value, x.weight + w, rest⟩] := by
  obtain ⟨front, hrest⟩ := hsuffix
  cases front with
  | nil =>
    rw [List.nil_append] at hrest
    rw [hrest] at hlength
    exact absurd hlength (Nat.lt_irrefl _)
  | cons p front =>
    have hgrow : grow? x ⟨a, w, rest⟩ =
        some ⟨(a, p :: front) :: x.value, x.weight + w, rest⟩ := by
      rw [← hrest] at hx
      rw [grow?, ← hrest]
      simp only [Parse.place, takeWhile_precedes hx, dropWhile_precedes hx]
    have hall : ∀ z ∈ extend entry x,
        z = ⟨(a, p :: front) :: x.value, x.weight + w, rest⟩ := by
      intro z hz
      rw [extend_eq] at hz
      obtain ⟨y, hy, hz⟩ := List.mem_filterMap.mp hz
      rw [h.others y hy, hgrow] at hz
      exact (Option.some.inj hz).symm
    have hmem : (⟨(a, p :: front) :: x.value, x.weight + w, rest⟩ : Parse (Row α)) ∈
        extend entry x := by
      rw [extend_eq]
      exact List.mem_filterMap.mpr ⟨_, h.mem, hgrow⟩
    refine ⟨p :: front, ?_⟩
    cases hys : extend entry x with
    | nil =>
      rw [hys] at hmem
      exact absurd hmem List.not_mem_nil
    | cons z ys =>
      rw [hys] at hall
      obtain ⟨hz, hys⟩ := List.forall_mem_cons.mp hall
      rw [hz]
      exact absorb_eq_self hys

theorem IsRow.allFrom (h : IsRow entry ps as w)
    (hps : Piece.AreOrdered ps) {n : Nat} (hn : ps.length < n) (before : Row α) (v : Int) :
    ∃ row, allFrom entry n [⟨before, v, ps⟩] = some ⟨row, v + w⟩ ∧
      row.map (·.1) = before.reverse.map (·.1) ++ as := by
  induction h generalizing n before v with
  | nil =>
    obtain ⟨m, rfl⟩ := Nat.exists_eq_succ_of_ne_zero (Nat.ne_of_gt hn)
    exact ⟨before.reverse, by simp [Reader.allFrom], by simp⟩
  | @cons ps rest a as w w' hread hsuffix hlength _ ih =>
    obtain ⟨m, rfl⟩ := Nat.exists_eq_succ_of_ne_zero (Nat.ne_of_gt (Nat.zero_lt_of_lt hn))
    obtain ⟨source, habsorb⟩ :=
      absorb_extend_of_readsOnly (x := ⟨before, v, ps⟩) hps hread hsuffix hlength
    obtain ⟨row, hrow, hvalues⟩ := ih (hps.sublist hsuffix.sublist) (n := m) (by omega)
      ((a, source) :: before) (v + w)
    refine ⟨row, ?_, ?_⟩
    · obtain ⟨p, ps, rfl⟩ := List.exists_cons_of_length_pos (Nat.zero_lt_of_lt hlength)
      rw [← Int.add_assoc, ← hrow, Reader.allFrom]
      exact congrArg (Reader.allFrom entry m) habsorb
    · rw [hvalues, List.reverse_cons, List.map_append, List.append_assoc]
      rfl

/-- **Rows** are read as their entries. -/
theorem IsRow.allWithSource (h : IsRow entry ps as w)
    (hps : Piece.AreOrdered ps) :
    ∃ row, allWithSource entry ps = some ⟨row, w⟩ ∧ row.map (·.1) = as := by
  obtain ⟨row, hrow, hvalues⟩ := h.allFrom hps (Nat.lt_succ_self _) [] 0
  rw [Int.zero_add] at hrow
  exact ⟨row, hrow, hvalues⟩

theorem IsRow.all (h : IsRow entry ps as w) (hps : Piece.AreOrdered ps) :
    all entry ps = some ⟨as, w⟩ := by
  obtain ⟨row, hrow, hvalues⟩ := h.allWithSource hps
  rw [Reader.all, hrow, Option.map_some, hvalues]

/-! ### Lists -/

/-- One member of a list with the comma behind it; the flag says that a comma may end the list. -/
def listEntry (trailing : Bool) (r : Reader α) : Reader α := do
  let a ← r
  check List.isEmpty <|> do
    mark ','
    check fun rest => trailing || !rest.isEmpty
  return a

theorem list_of_ne_nil (trailing : Bool) (h : ps ≠ []) :
    list trailing r ps = all (listEntry trailing r) ps := by
  rw [list, if_neg (by simpa using h)]
  rfl

/-- Pieces behind a member of a list, and those of them that begin the next member, if any. -/
inductive EndsMember : List Piece → List Piece → Prop
  /-- It is the last one. -/
  | last : EndsMember [] []
  /-- A comma stands before the next one. -/
  | comma {q : Piece} {ps : List Piece} : q.isMark ',' = true → ps ≠ [] → EndsMember (q :: ps) ps

/-- A member of a list is read with the comma behind it. -/
theorem IsFurthest.listEntry [hr : TakesFront r] {front tail : List Piece}
    (h : IsFurthest r (front ++ tail) ⟨a, w, tail⟩) (hfront : ∀ p ∈ front, p.isMark ',' = false)
    (htail : EndsMember tail rest) :
    ReadsOnly (listEntry false r) (front ++ tail) ⟨a, w, rest⟩ := by
  have hend : (do
      check List.isEmpty <|> do
        mark ','
        check fun rest => false || !rest.isEmpty
      return a : Reader α) tail = [⟨a, 0, rest⟩] := by
    cases htail with
    | last => rfl
    | @comma q _ hq hrest =>
      have hmark : mark ',' (q :: rest) = [⟨(), 0, rest⟩] := by
        rw [mark, piece, if_pos hq]
        rfl
      have hcheck : check (fun rest => false || !rest.isEmpty) rest = [⟨(), 0, rest⟩] :=
        check_eq (by simpa using hrest)
      have hcomma : (check List.isEmpty <|> do
          mark ','
          check fun rest => false || !rest.isEmpty) (q :: rest) = [⟨(), 0, rest⟩] := by
        rw [orElse_of_left_eq_nil (check_eq_nil rfl), bind_of_eq hmark, hcheck]
      rw [bind_of_eq hcomma, pure_apply]
  have hread := h.bind (f := fun a => do
      check List.isEmpty <|> do
        mark ','
        check fun rest => false || !rest.isEmpty
      return a) (fun y hy hlength => ?_) (readsOnly_of_eq hend)
  · rwa [behind_mk, Int.add_zero] at hread
  · -- What is left otherwise begins with a piece of the member.
    obtain ⟨p, hp, ps, hrest⟩ := exists_mem_of_length_lt (hr.suffix hy) hlength
    have hmark : mark ',' y.rest = [] := by
      rw [hrest, mark, piece, hfront p hp]
      rfl
    exact bind_eq_nil (orElse_eq_nil (check_eq_nil (by rw [hrest]; rfl)) (bind_eq_nil hmark))

end Reader

end Bindery.Header
