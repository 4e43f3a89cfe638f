import Bindery.Binding.Enumeration
import Bindery.Proofs.Layout
import Bindery.Proofs.Letter
import Bindery.Proofs.Replacing
import Mathlib.Algebra.Group.Int.Defs
import Mathlib.Data.List.Nodup

/-!
# Values of enumerations

C and the target language give values to the members of an enumeration in the same way: a member
without a value of its own has the one after the value of the member before. They differ in how a
value is read: a leading zero asks for octal digits in C only, and a member may only in C be given
by the name of an earlier one. Leaving second names out therefore keeps the values of the others as
long as no member counts on from a second name that is out of step.
-/

namespace Bindery

/-! ## Literals -/

/-- The integer that a magnitude with at most a minus sign in front writes. -/
def integerBy (magnitude? : Text → Option Nat) (t : Text) : Option Int :=
  let value : Option Int :=
    match t with
    | '-' :: digits => (magnitude? digits).map fun n => -Int.ofNat n
    | digits => (magnitude? digits).map Int.ofNat
  value.filter Text.fitsSigned

/-- The number that digits write, in hexadecimal ones behind their mark. -/
def targetMagnitude? (t : Text) : Option Nat :=
  match Text.hexadecimal? t with
  | some digits => Text.natural? 16 digits
  | none => Text.natural? 10 t

/-- In C digits behind a zero are octal. -/
def cMagnitude? (t : Text) : Option Nat :=
  match Text.hexadecimal? t with
  | some digits => Text.natural? 16 digits
  | none => Text.natural? (if Text.startsWith ['0'] t then 8 else 10) t

/-- The value of a literal in C. -/
def cLiteral? (t : Text) : Option Int := integerBy cMagnitude? t

/-- The value of a literal in the target language. -/
def targetLiteral? (t : Text) : Option Int := integerBy targetMagnitude? t

namespace Enumerator

/-! ## Values of members -/

/-- Members with their values, in order. -/
abbrev Values := List (Text × Int)

/-- The value of a member that is not given one, behind others. -/
def nextValue (values : Values) : Int :=
  match values.getLast? with
  | some (_, v) => v + 1
  | none => 0

/-- The value of a member behind others, where `given` reads the values that are written. -/
def value? (given : Values → Text → Option Int) (values : Values) (e : Enumerator) : Option Int :=
  match e.value with
  | some t => given values t
  | none => some (nextValue values)

/-- Add a member to others. -/
def addValue (given : Values → Text → Option Int) (values : Values) (e : Enumerator) :
    Option Values :=
  (e.value? given values).map fun v => values ++ [(e.name, v)]

/-- The values of the members of an enumeration. -/
def values? (given : Values → Text → Option Int) (items : List Enumerator) : Option Values :=
  items.foldlM (addValue given) []

/-- In C a value is a literal or the name of an earlier member. -/
def cGiven (values : Values) (t : Text) : Option Int := cLiteral? t <|> values.lookup t

/-- In the target language a value is a literal. -/
def targetGiven (_ : Values) (t : Text) : Option Int := targetLiteral? t

section Values

variable {given : Values → Text → Option Int} {items : List Enumerator} {e : Enumerator}
  {values : Values}

@[simp] theorem values?_nil : values? given [] = some [] := rfl

/-- The last member has its value behind the others. -/
theorem values?_concat : values? given (items ++ [e]) =
    (values? given items).bind fun before =>
      (e.value? given before).map fun v => before ++ [(e.name, v)] := by
  rw [values?, List.foldlM_append]
  simp only [List.foldlM_cons, List.foldlM_nil, bind_pure]
  rfl

theorem values?_concat_eq_some_iff : values? given (items ++ [e]) = some values ↔
    ∃ before v, values? given items = some before ∧ e.value? given before = some v ∧
      values = before ++ [(e.name, v)] := by
  rw [values?_concat, Option.bind_eq_some_iff]
  simp only [Option.map_eq_some_iff, exists_and_left, eq_comm (a := values)]

/-- Every member has a value. -/
theorem map_fst_of_values? (h : values? given items = some values) :
    values.map (·.1) = items.map (·.name) := by
  induction items using List.reverseRecOn generalizing values with
  | nil =>
    cases h
    rfl
  | append_singleton items e ih =>
    obtain ⟨before, v, hbefore, _, rfl⟩ := values?_concat_eq_some_iff.mp h
    rw [List.map_append, List.map_append, ih hbefore]
    rfl

/-- A value behind others is the one after the last. -/
theorem nextValue_concat (n : Text) (v : Int) : nextValue (values ++ [(n, v)]) = v + 1 := by
  rw [nextValue, List.getLast?_concat]

end Values

/-! ## Members that keep a property -/

/-- The target language gives the members values, each of which is right for the member. -/
def ReadAs (right : Text × Int → Prop) (members : List Enumerator) : Prop :=
  ∃ values, values? targetGiven members = some values ∧ ∀ m ∈ values, right m

instance (right : Text × Int → Prop) [DecidablePred right] (members : List Enumerator) :
    Decidable (ReadAs right members) :=
  match h : values? targetGiven members with
  | some values => decidable_of_iff (∀ m ∈ values, right m)
      ⟨fun hright => ⟨values, h, hright⟩, fun ⟨_, hread, hright⟩ =>
        Option.some.inj (h.symm.trans hread) ▸ hright⟩
  | none => isFalse fun ⟨_, hread, _⟩ => by cases h.symm.trans hread

section ReadAs

variable {right : Text × Int → Prop} {members : List Enumerator} {e : Enumerator}

theorem readAs_nil : ReadAs right [] := ⟨[], rfl, fun _ hm => absurd hm List.not_mem_nil⟩

/-- The last member is right in its place behind the others. -/
theorem readAs_concat_iff : ReadAs right (members ++ [e]) ↔
    ∃ before v, values? targetGiven members = some before ∧ (∀ m ∈ before, right m) ∧
      e.value? targetGiven before = some v ∧ right (e.name, v) := by
  constructor
  · rintro ⟨values, hvalues, hright⟩
    obtain ⟨before, v, hbefore, hv, rfl⟩ := values?_concat_eq_some_iff.mp hvalues
    exact ⟨before, v, hbefore, fun m hm => hright m (List.mem_append_left _ hm), hv,
      hright _ (List.mem_append_right before List.mem_cons_self)⟩
  · rintro ⟨before, v, hbefore, hbright, hv, hvright⟩
    refine ⟨_, values?_concat_eq_some_iff.mpr ⟨before, v, hbefore, hv, rfl⟩, ?_⟩
    intro m hm
    rcases List.mem_append.mp hm with hm | hm
    · exact hbright m hm
    · rw [List.mem_singleton.mp hm]
      exact hvright

/-- A member with a value of its own is right by itself. -/
theorem readAs_concat_iff_of_value {t : Text} (h : e.value = some t) :
    ReadAs right (members ++ [e]) ↔
      ReadAs right members ∧ ∃ v, targetLiteral? t = some v ∧ right (e.name, v) := by
  have hvalue : ∀ before, e.value? targetGiven before = targetLiteral? t := by
    intro before
    rw [value?, h]
    rfl
  rw [readAs_concat_iff]
  constructor
  · rintro ⟨before, v, hbefore, hright, hv, hvright⟩
    exact ⟨⟨before, hbefore, hright⟩, v, (hvalue before).symm.trans hv, hvright⟩
  · rintro ⟨⟨before, hbefore, hright⟩, v, hv, hvright⟩
    exact ⟨before, v, hbefore, hright, (hvalue before).trans hv, hvright⟩

/-- Members with values of their own are right each by itself. -/
theorem readAs_iff_forall (h : ∀ e ∈ members, e.value.isSome = true) :
    ReadAs right members ↔ ∀ e ∈ members, ∀ t, e.value = some t →
      ∃ v, targetLiteral? t = some v ∧ right (e.name, v) := by
  induction members using List.reverseRecOn with
  | nil => exact iff_of_true readAs_nil fun _ he => absurd he List.not_mem_nil
  | append_singleton members e ih =>
    obtain ⟨t, ht⟩ := Option.isSome_iff_exists.mp (h e (List.mem_append_right members
      List.mem_cons_self))
    rw [readAs_concat_iff_of_value ht, ih fun e' he' => h e' (List.mem_append_left _ he')]
    simp only [List.mem_append, List.mem_singleton, or_imp, forall_and, forall_eq, ht,
      Option.some.injEq, forall_eq']

/-- The order of members with values of their own does not matter. -/
theorem readAs_iff_of_perm {members' : List Enumerator} (hperm : members.Perm members')
    (h : ∀ e ∈ members, e.value.isSome = true) :
    ReadAs right members ↔ ReadAs right members' := by
  rw [readAs_iff_forall h, readAs_iff_forall fun e he => h e (hperm.mem_iff.mpr he)]
  simp only [hperm.mem_iff]

/-- A member by another name. -/
def rename (f : Text → Text) (e : Enumerator) : Enumerator := { e with name := f e.name }

/-- Names have no part in the values that the target language gives. -/
theorem values?_map_rename (f : Text → Text) : values? targetGiven (members.map (rename f)) =
    (values? targetGiven members).map (List.map (Prod.map f id)) := by
  induction members using List.reverseRecOn with
  | nil => rfl
  | append_singleton members e ih =>
    rw [List.map_append, List.map_singleton, values?_concat, values?_concat, ih]
    cases values? targetGiven members with
    | none => rfl
    | some before =>
      have hvalue : (rename f e).value? targetGiven (before.map (Prod.map f id)) =
          e.value? targetGiven before := by
        unfold value? rename nextValue
        rw [List.getLast?_map]
        cases before.getLast? <;> rfl
      rw [Option.map_some, Option.bind_some, Option.bind_some, hvalue]
      cases e.value? targetGiven before with
      | none => rfl
      | some v =>
        rw [Option.map_some, Option.map_some, Option.map_some, List.map_append]
        rfl

/-- Members by other names are right by those names. -/
theorem readAs_map_rename_iff (f : Text → Text) : ReadAs right (members.map (rename f)) ↔
    ReadAs (fun m => right (f m.1, m.2)) members := by
  rw [ReadAs, ReadAs, values?_map_rename]
  constructor
  · rintro ⟨values', hvalues', hright⟩
    obtain ⟨values, hvalues, rfl⟩ := Option.map_eq_some_iff.mp hvalues'
    exact ⟨values, hvalues, fun m hm => hright _ (List.mem_map_of_mem hm)⟩
  · rintro ⟨values, hvalues, hright⟩
    refine ⟨_, Option.map_eq_some_iff.mpr ⟨values, hvalues, rfl⟩, ?_⟩
    intro m hm
    obtain ⟨m', hm', rfl⟩ := List.mem_map.mp hm
    exact hright m' hm'

end ReadAs

/-! ## Members that C accepts -/

/-- Members with different names of the library, and the values that C gives them. -/
structure Legal (items : List Enumerator) (values : Values) : Prop where
  /-- The names are identifiers of the library. -/
  names : ∀ e ∈ items, libraryLead <+: e.name ∧ Text.IsWordy e.name
  /-- No name is used twice. -/
  distinct : (items.map (·.name)).Nodup
  /-- Every member has no value, a literal or the name of an earlier member. -/
  known : values? cGiven items = some values

/-- The three ways in which C gives a value to a member behind others. -/
inductive GivenBy (before : Values) (e : Enumerator) : Int → Prop where
  /-- By the member before. -/
  | place (h : e.value = none) : GivenBy before e (nextValue before)
  /-- By a literal. -/
  | literal {t : Text} {v : Int} (h : e.value = some t) (hfirst : e.isSecondName = false)
    (hv : cLiteral? t = some v) : GivenBy before e v
  /-- By the name of an earlier member. -/
  | name {t : Text} {v : Int} (h : e.value = some t) (hsecond : e.isSecondName = true)
    (hv : before.lookup t = some v) : GivenBy before e v

/-- A name of the library is no literal. -/
theorem cLiteral?_eq_none {t : Text} (h : libraryLead <+: t) : cLiteral? t = none := by
  obtain ⟨rest, rfl⟩ := h
  have hlead : libraryLead ++ rest = 's' :: 'f' :: rest := by
    rw [libraryLead, Text.ofString_eq]
    rfl
  have hhexadecimal : Text.hexadecimal? ('s' :: 'f' :: rest) = none := by
    simp [Text.hexadecimal?, Text.ofString_eq, Text.after?]
  have hdecimal : Text.natural? 10 ('s' :: 'f' :: rest) = none := by
    rw [Text.natural?, List.mapM_cons, show Text.digit? 10 's' = none by decide]
    · rfl
    · exact List.cons_ne_nil _ _
  have hmagnitude : cMagnitude? ('s' :: 'f' :: rest) = none := by
    rw [cMagnitude?, hhexadecimal]
    exact hdecimal
  rw [hlead]
  change ((cMagnitude? ('s' :: 'f' :: rest)).map Int.ofNat).filter Text.fitsSigned = none
  rw [hmagnitude]
  rfl

section Legal

variable {items : List Enumerator} {e : Enumerator} {values : Values}

theorem Legal.eq_of_mem (h : Legal items values) {n : Text} {v w : Int} (hv : (n, v) ∈ values)
    (hw : (n, w) ∈ values) : v = w := by
  have hdistinct : (values.map (·.1)).Nodup := map_fst_of_values? h.known ▸ h.distinct
  exact congrArg Prod.snd (List.inj_on_of_nodup_map hdistinct hv hw rfl)

theorem Legal.exists_mem (h : Legal items values) (he : e ∈ items) :
    ∃ v, (e.name, v) ∈ values := by
  have hname : e.name ∈ values.map (·.1) := by
    rw [map_fst_of_values? h.known]
    exact List.mem_map_of_mem he
  obtain ⟨⟨_, v⟩, hmem, rfl⟩ := List.mem_map.mp hname
  exact ⟨v, hmem⟩

/-- The last of some members has a name of its own, and a value behind the others. -/
theorem Legal.concat (h : Legal (items ++ [e]) values) : ∃ before v,
    Legal items before ∧ GivenBy before e v ∧ values = before ++ [(e.name, v)] ∧
      ∀ w, (e.name, w) ∉ before := by
  obtain ⟨before, v, hbefore, hv, rfl⟩ := values?_concat_eq_some_iff.mp h.known
  have hnodup := h.distinct
  rw [List.map_append, List.map_singleton, List.nodup_append_comm, List.singleton_append,
    List.nodup_cons, ← map_fst_of_values? hbefore] at hnodup
  have hinit : Legal items before :=
    ⟨fun e' he' => h.names e' (List.mem_append_left _ he'),
      map_fst_of_values? hbefore ▸ hnodup.2, hbefore⟩
  refine ⟨before, v, hinit, ?_, rfl, fun w hw => hnodup.1 (List.mem_map_of_mem hw)⟩
  unfold value? at hv
  cases hvalue : e.value with
  | none =>
    rw [hvalue] at hv
    cases hv
    exact .place hvalue
  | some t =>
    rw [hvalue] at hv
    change (cLiteral? t <|> before.lookup t) = some v at hv
    cases hliteral : cLiteral? t with
    | some w =>
      rw [hliteral] at hv
      cases hv
      refine .literal hvalue ?_ hliteral
      rw [isSecondName, hvalue, Option.any_some, Bool.eq_false_iff]
      intro hstarts
      obtain ⟨rest, hrest⟩ := Text.startsWith_iff.mp hstarts
      rw [cLiteral?_eq_none ⟨rest, hrest.symm⟩] at hliteral
      cases hliteral
    | none =>
      rw [hliteral] at hv
      refine .name hvalue ?_ hv
      have hname : t ∈ items.map (·.name) := by
        rw [← map_fst_of_values? hbefore]
        exact List.mem_map_of_mem (mem_of_lookup hv)
      obtain ⟨e', he', rfl⟩ := List.mem_map.mp hname
      obtain ⟨rest, hrest⟩ := (hinit.names e' he').1
      rw [isSecondName, hvalue, Option.any_some]
      exact Text.startsWith_iff.mpr ⟨rest, hrest.symm⟩

/-- The members that are no second names. -/
def kept (items : List Enumerator) : List Enumerator := items.filter (!·.isSecondName)

theorem mem_kept_iff : e ∈ kept items ↔ e ∈ items ∧ e.isSecondName = false := by
  rw [kept, List.mem_filter, Bool.not_eq_true']

theorem kept_concat_of_first (h : e.isSecondName = false) :
    kept (items ++ [e]) = kept items ++ [e] := by
  rw [kept, List.filter_append, List.filter_cons_of_pos (by rw [h]; rfl)]
  rfl

theorem kept_concat_of_second (h : e.isSecondName = true) : kept (items ++ [e]) = kept items := by
  rw [kept, List.filter_append, List.filter_cons_of_neg (by rw [h]; decide), List.filter_nil,
    List.append_nil, kept]

theorem isSecondName_eq_false_of_value (h : e.value = none) : e.isSecondName = false := by
  rw [isSecondName, h]
  rfl

/-- A second name has a first one before it. -/
theorem GivenBy.isSecondName_eq_false {v : Int} (h : GivenBy [] e v) : e.isSecondName = false := by
  cases h with
  | place h => exact isSecondName_eq_false_of_value h
  | literal _ hfirst _ => exact hfirst
  | name _ _ hv => cases hv

/-- The first member is given its value without others. -/
theorem Legal.exists_givenBy_head (h : Legal items values) (he : e ∈ items.head?) :
    ∃ v, GivenBy [] e v ∧ (e.name, v) ∈ values := by
  induction items using List.reverseRecOn generalizing values with
  | nil => cases he
  | append_singleton items last ih =>
    obtain ⟨before, v, hinit, hgiven, rfl, -⟩ := h.concat
    by_cases hnil : items = []
    · subst hnil
      cases hinit.known
      cases he
      exact ⟨v, hgiven, List.mem_append_right [] List.mem_cons_self⟩
    · rw [List.head?_append_of_ne_nil _ hnil] at he
      obtain ⟨w, hw, hmem⟩ := ih hinit he
      exact ⟨w, hw, List.mem_append_left _ hmem⟩

theorem Legal.kept_ne_nil (h : Legal items values) (hne : items ≠ []) : kept items ≠ [] := by
  obtain ⟨e, rest, rfl⟩ := List.exists_cons_of_ne_nil hne
  obtain ⟨v, hgiven, -⟩ := h.exists_givenBy_head rfl
  exact List.ne_nil_of_mem (mem_kept_iff.mpr ⟨List.mem_cons_self, hgiven.isSecondName_eq_false⟩)

/-- The values that are written for members that are no second names are literals. -/
theorem Legal.exists_cLiteral? (h : Legal items values) (he : e ∈ kept items) {t : Text}
    (ht : e.value = some t) : ∃ v, cLiteral? t = some v := by
  rw [mem_kept_iff] at he
  obtain ⟨he, hfirst⟩ := he
  induction items using List.reverseRecOn generalizing values with
  | nil => cases he
  | append_singleton items last ih =>
    obtain ⟨before, v, hinit, hgiven, -, -⟩ := h.concat
    rcases List.mem_append.mp he with he | he
    · exact ih hinit he
    · cases List.mem_singleton.mp he
      cases hgiven with
      | place hvalue => cases hvalue.symm.trans ht
      | literal hvalue _ hv =>
        cases hvalue.symm.trans ht
        exact ⟨v, hv⟩
      | name _ hsecond _ => cases hfirst.symm.trans hsecond

theorem kept_subset : kept items ⊆ items := fun _ he => (mem_kept_iff.mp he).1

theorem Legal.lookup_eq_some (h : Legal items values) {n : Text} {v : Int}
    (hmem : (n, v) ∈ values) : values.lookup n = some v := by
  have hsome : (values.lookup n).isSome = true := by
    rw [List.lookup_isSome_iff]
    exact ⟨(n, v), hmem, beq_self_eq_true n⟩
  obtain ⟨w, hw⟩ := Option.isSome_iff_exists.mp hsome
  rw [hw, h.eq_of_mem (mem_of_lookup hw) hmem]

/-! ## Second names in step -/

/-- Every literal has the same value in both languages. -/
def ReadAlike (items : List Enumerator) : Prop :=
  ∀ e ∈ items, ∀ t ∈ e.value, ∀ v ∈ cLiteral? t, targetLiteral? t = some v

instance (items : List Enumerator) : Decidable (ReadAlike items) :=
  inferInstanceAs (Decidable (∀ e ∈ items, _))

/-- The value of the last of some members. -/
def lastValue? (values : Values) (items : List Enumerator) : Option Int :=
  items.getLast?.bind (values.lookup ·.name)

/-- Where a member has no value of its own, the member before it has the value of the last one
before that is no second name. -/
def InStep (items : List Enumerator) (values : Values) : Prop :=
  ∀ i < items.length, ∀ e ∈ items[i]?, e.value = none →
    lastValue? values (items.take i) = lastValue? values (kept (items.take i))

instance (items : List Enumerator) (values : Values) : Decidable (InStep items values) :=
  inferInstanceAs (Decidable (∀ i < items.length, _))

/-- The members that are no second names count on from the same value as all members, exactly when
these end in step. -/
theorem Legal.nextValue_eq_iff (h : Legal items values) {read : Values}
    (hread : values? targetGiven (kept items) = some read) (hright : ∀ m ∈ read, m ∈ values) :
    nextValue read = nextValue values ↔
      lastValue? values items = lastValue? values (kept items) := by
  rcases List.eq_nil_or_concat items with rfl | ⟨init, last, rfl⟩
  · cases h.known
    cases hread
    exact iff_of_true rfl rfl
  · rw [List.concat_eq_append] at *
    obtain ⟨before, v, _, _, rfl, _⟩ := h.concat
    rcases List.eq_nil_or_concat (kept (init ++ [last])) with hnil | ⟨left, first, hkept⟩
    · exact absurd hnil (h.kept_ne_nil (List.append_ne_nil_of_right_ne_nil _ (List.cons_ne_nil _ _)))
    rw [List.concat_eq_append] at hkept
    rw [hkept] at hread ⊢
    obtain ⟨read, w, _, _, rfl⟩ := values?_concat_eq_some_iff.mp hread
    have hfirst := h.lookup_eq_some (hright _ (List.mem_append_right read List.mem_cons_self))
    have hlast := h.lookup_eq_some (List.mem_append_right before List.mem_cons_self)
    rw [nextValue_concat, nextValue_concat, lastValue?, lastValue?, List.getLast?_concat,
      List.getLast?_concat, Option.bind_some, Option.bind_some, hfirst, hlast, Option.some.injEq,
      add_left_inj, eq_comm]

section Concat

variable {before : Values} {v : Int}

/-- A value of one of some members is not changed by a member behind them. -/
theorem Legal.lookup_concat (h : Legal items before) {e' : Enumerator} (he' : e' ∈ items) :
    (before ++ [(e.name, v)]).lookup e'.name = before.lookup e'.name := by
  obtain ⟨w, hw⟩ := h.exists_mem he'
  rw [List.lookup_append, h.lookup_eq_some hw]
  rfl

theorem Legal.lastValue?_concat (h : Legal items before) {init : List Enumerator}
    (hinit : init ⊆ items) :
    lastValue? (before ++ [(e.name, v)]) init = lastValue? before init := by
  unfold lastValue?
  cases hlast : init.getLast? with
  | none => rfl
  | some last => exact h.lookup_concat (hinit (List.mem_of_getLast? hlast))

/-- A member without a value asks the members before it to end in step. -/
theorem Legal.inStep_concat_iff (h : Legal items before) :
    InStep (items ++ [e]) (before ++ [(e.name, v)]) ↔ InStep items before ∧
      (e.value = none → lastValue? before items = lastValue? before (kept items)) := by
  have hsame : ∀ i ≤ items.length,
      (lastValue? (before ++ [(e.name, v)]) ((items ++ [e]).take i) =
        lastValue? (before ++ [(e.name, v)]) (kept ((items ++ [e]).take i)) ↔
      lastValue? before (items.take i) = lastValue? before (kept (items.take i))) := by
    intro i hi
    rw [List.take_append_of_le_length hi, h.lastValue?_concat (List.take_subset i items),
      h.lastValue?_concat fun x hx => List.take_subset i items (kept_subset hx)]
  constructor
  · intro hstep
    constructor
    · intro i hi e' he' hvalue
      refine (hsame i hi.le).mp (hstep i ?_ e' ?_ hvalue)
      · exact Nat.lt_of_lt_of_le hi (by simp)
      · rwa [List.getElem?_append_left hi]
    · intro hvalue
      have hlast := (hsame items.length le_rfl).mp (hstep items.length (by simp) e (by simp) hvalue)
      rwa [List.take_length] at hlast
  · rintro ⟨hstep, hlast⟩ i hi e' he' hvalue
    rw [List.length_append, List.length_singleton] at hi
    rw [hsame i (Nat.le_of_lt_succ hi)]
    rcases Nat.lt_succ_iff_lt_or_eq.mp hi with hi | rfl
    · rw [List.getElem?_append_left hi] at he'
      exact hstep i hi e' he' hvalue
    · rw [List.getElem?_concat_length] at he'
      cases he'
      rw [List.take_length]
      exact hlast hvalue

theorem readAlike_concat_iff : ReadAlike (items ++ [e]) ↔ ReadAlike items ∧
    ∀ t ∈ e.value, ∀ v ∈ cLiteral? t, targetLiteral? t = some v := by
  simp only [ReadAlike, List.mem_append, List.mem_singleton, or_imp, forall_and, forall_eq]

theorem mem_concat_last_iff (hfresh : ∀ w, (e.name, w) ∉ before) {w : Int} :
    (e.name, w) ∈ before ++ [(e.name, v)] ↔ w = v := by
  rw [List.mem_append, List.mem_singleton, or_iff_right (hfresh w), Prod.mk.injEq,
    and_iff_right rfl]

/-- What is right among the values of some members is so with a member behind them, too. -/
theorem Legal.mem_read_iff (h : Legal items before) (hfresh : ∀ w, (e.name, w) ∉ before)
    {read : Values} (hread : values? targetGiven (kept items) = some read) {m : Text × Int}
    (hm : m ∈ read) : m ∈ before ++ [(e.name, v)] ↔ m ∈ before := by
  have hname : m.1 ∈ (kept items).map (·.name) := by
    rw [← map_fst_of_values? hread]
    exact List.mem_map_of_mem hm
  obtain ⟨e', he', hname⟩ := List.mem_map.mp hname
  obtain ⟨w, hw⟩ := h.exists_mem (kept_subset he')
  rw [List.mem_append, List.mem_singleton, or_iff_left]
  rintro rfl
  rw [hname] at hw
  exact hfresh w hw

theorem Legal.readAs_concat_values_iff (h : Legal items before)
    (hfresh : ∀ w, (e.name, w) ∉ before) :
    ReadAs (· ∈ before ++ [(e.name, v)]) (kept items) ↔ ReadAs (· ∈ before) (kept items) :=
  exists_congr fun _ => and_congr_right fun hread =>
    forall₂_congr fun _ hm => h.mem_read_iff hfresh hread hm

/-- A member without a value is right if the members before it are, and end in step. -/
theorem Legal.readAs_place_iff (h : Legal items before) (hfresh : ∀ w, (e.name, w) ∉ before)
    (hvalue : e.value = none) :
    ReadAs (· ∈ before ++ [(e.name, nextValue before)]) (kept items ++ [e]) ↔
      ReadAs (· ∈ before) (kept items) ∧
        lastValue? before items = lastValue? before (kept items) := by
  have hnext : ∀ read, e.value? targetGiven read = some (nextValue read) := by
    intro read
    rw [value?, hvalue]
  rw [readAs_concat_iff]
  constructor
  · rintro ⟨read, w, hread, hright, hw, hwright⟩
    have hright' : ∀ m ∈ read, m ∈ before := fun m hm =>
      (h.mem_read_iff hfresh hread hm).mp (hright m hm)
    rw [hnext, Option.some.injEq] at hw
    rw [mem_concat_last_iff hfresh, ← hw] at hwright
    exact ⟨⟨read, hread, hright'⟩, (h.nextValue_eq_iff hread hright').mp hwright⟩
  · rintro ⟨⟨read, hread, hright⟩, hstep⟩
    refine ⟨read, _, hread, fun m hm => (h.mem_read_iff hfresh hread hm).mpr (hright m hm),
      hnext read, ?_⟩
    rw [mem_concat_last_iff hfresh]
    exact (h.nextValue_eq_iff hread hright).mpr hstep

end Concat

/-- Members that are no second names keep their values, exactly when literals are read alike and
second names are in step. -/
theorem Legal.readAs_kept_iff (h : Legal items values) :
    ReadAs (· ∈ values) (kept items) ↔ ReadAlike items ∧ InStep items values := by
  induction items using List.reverseRecOn generalizing values with
  | nil =>
    exact iff_of_true readAs_nil ⟨fun _ he => absurd he List.not_mem_nil,
      fun i hi => absurd hi (Nat.not_lt_zero i)⟩
  | append_singleton items e ih =>
    obtain ⟨before, v, hinit, hgiven, rfl, hfresh⟩ := h.concat
    rw [readAlike_concat_iff, hinit.inStep_concat_iff]
    cases hgiven with
    | place hvalue =>
      have halike : ∀ t ∈ e.value, ∀ w ∈ cLiteral? t, targetLiteral? t = some w := by
        intro t ht
        cases hvalue.symm.trans ht
      rw [kept_concat_of_first (isSecondName_eq_false_of_value hvalue),
        hinit.readAs_place_iff hfresh hvalue, ih hinit, and_iff_left halike,
        forall_prop_of_true hvalue, and_assoc]
    | @literal t _ hvalue hfirst hv =>
      have halike : (∀ t ∈ e.value, ∀ w ∈ cLiteral? t, targetLiteral? t = some w) ↔
          targetLiteral? t = some v := by
        simp only [hvalue, Option.mem_some, forall_eq', hv]
      have hplace : e.value = none →
          lastValue? before items = lastValue? before (kept items) := by
        intro hnone
        cases hnone.symm.trans hvalue
      rw [kept_concat_of_first hfirst, readAs_concat_iff_of_value hvalue,
        hinit.readAs_concat_values_iff hfresh, ih hinit, halike, and_iff_left hplace]
      simp only [mem_concat_last_iff hfresh, exists_eq_right]
      exact and_right_comm
    | @name t _ hvalue hsecond hv =>
      have halike : ∀ t ∈ e.value, ∀ w ∈ cLiteral? t, targetLiteral? t = some w := by
        intro t' ht' w hw
        rw [isSecondName, ht', Option.any_some] at hsecond
        obtain ⟨rest, hrest⟩ := Text.startsWith_iff.mp hsecond
        rw [cLiteral?_eq_none ⟨rest, hrest.symm⟩] at hw
        cases hw
      have hplace : e.value = none →
          lastValue? before items = lastValue? before (kept items) := by
        intro hnone
        cases hnone.symm.trans hvalue
      rw [kept_concat_of_second hsecond, hinit.readAs_concat_values_iff hfresh, ih hinit,
        and_iff_left halike, and_iff_left hplace]

end Legal

end Enumerator

end Bindery
