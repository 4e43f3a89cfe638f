import Bindery.Proofs.BaseReading

/-!
# Reading tagged types

Behind the word that begins a structure or a union, fields in braces are read in one way only, and
so is a name that stands alone. Members of an enumeration and the name of one are read like this
too.
-/

namespace Bindery.Header

open Reader Piece

variable {g : Phrases} {p q : Piece} {ps rest : List Piece} {w : Text} {reserved : List Text}
  {open_ : Bool}

/-! ### Names of tagged types -/

theorem tag_cons (hg : g.IsAngled) (hp : p.word? = some w) (hw : w ∉ reserved)
    (hspecial : w ∉ (["decltype", "template"] : List Text)) (hrest : IsUnscoped rest)
    (hordered : AreOrdered (p :: rest)) :
    tag g reserved (p :: rest) = [⟨sourceOf [p], 0, rest⟩] :=
  bind_of_eq (withSource_eq (r := namedType g reserved)
    (show namedType g reserved ([p] ++ rest) = _ from namedType_cons hg hp hw hspecial hrest)
    (show AreOrdered ([p] ++ rest) from hordered))

theorem tag_eq_nil_of_isGroup {c : Char} (hp : p.isGroup c = true) :
    tag g reserved (p :: ps) = [] :=
  bind_eq_nil (List.map_eq_nil_iff.mpr (namedType_eq_nil (name_eq_nil (word?_of_isGroup hp))
    (isOneOf_of_isGroup hp _) (isMark_of_isGroup hp _)))

/-- A word is its own source. -/
theorem sourceOf_of_word? (hp : p.word? = some w) : sourceOf [p] = w := by
  obtain ⟨n, t, rfl, -, rfl⟩ := exists_of_word? hp
  exact List.append_nil _

/-! ### Structures and unions -/

/-- Nothing is skipped before what is not modified. -/
theorem recordPrelude_eq (h : IsUnmodified ps) : recordPrelude ps = [⟨(), 0, ps⟩] := by
  have hfirst : skip (dropAll fun ps => dropAttribute? ps <|> dropAlignment? ps) ps =
      [⟨(), 0, ps⟩] := by
    rw [skip, dropAll_eq]
    rw [h.dropAttribute?, h.dropAlignment?]
    rfl
  have hexport : skip (dropOptional dropExport?) ps = [⟨(), 0, ps⟩] := by
    rw [skip, dropOptional, h.dropExport?]
    rfl
  refine (bind_of_eq hfirst).trans ((bind_of_eq hexport).trans ?_)
  rw [skip, dropAll_eq h.dropBracketAttributes?]

/-- Fields in braces are read with the word before them. -/
theorem recordParts_group {fields : List Param} (hp : p.isGroup '\x7b' = true)
    (hfields : p.readings.members = some fields)
    (hrest : rest.head?.any (·.isOneOf Keyword.attributes) = false) :
    recordParts g (p :: rest) = [⟨(none, some fields), 0, rest⟩] := by
  have hunmodified : IsUnmodified (p :: rest) :=
    ⟨isOneOf_of_isGroup hp _, isGroup_of_isGroup hp (by decide)⟩
  have htag : tag g Keyword.records (p :: rest) = [] := tag_eq_nil_of_isGroup hp
  have hclosures : word Keyword.closures (p :: rest) = [] := word_eq_nil (isOneOf_of_isGroup hp _)
  have hbases : baseClasses g (p :: rest) = [] := bind_eq_nil (mark_eq_nil (isMark_of_isGroup hp _))
  have hread : (p.readings.members.map fun fields => (⟨fields, 0⟩ : Weighted (List Param))) =
      some ⟨fields, 0⟩ := by
    rw [hfields]
    rfl
  have hgroup := group_cons (f := fun r => r.members.map fun fields => ⟨fields, 0⟩) hp hread rest
  have hparts : ((do
      let name ← optional (tag g Keyword.records)
      let _ ← optional (word Keyword.closures)
      let _ ← optional (baseClasses g)
      let fields ← group '\x7b' fun r => r.members.map fun fields => ⟨fields, 0⟩
      return (name, some fields))
    <|> (do
      let name ← tag g Keyword.records
      check fun ps => !ps.head?.any (·.isOneOf Keyword.closures)
      return (some name, none)) : Reader (Option Text × Option (List Param))) (p :: rest) =
        [⟨(none, some fields), 0, rest⟩] := by
    refine (orElse_of_right_eq_nil (bind_eq_nil htag)).trans ?_
    refine (bind_of_eq (optional_of_eq_nil htag)).trans ?_
    refine (bind_of_eq (optional_of_eq_nil hclosures)).trans ?_
    exact (bind_of_eq (optional_of_eq_nil hbases)).trans (bind_of_eq hgroup)
  refine (bind_of_eq (recordPrelude_eq hunmodified)).trans ((bind_of_eq hparts).trans ?_)
  exact bind_of_eq (dropOptionalAttribute_eq hrest)

/-- A name alone is read with the word before it. -/
theorem recordParts_name (hg : g.IsAngled) (hp : p.word? = some w) (hw : w ∉ Keyword.records)
    (hmodifiers : w ∉ Keyword.modifiers) (hrest : EndsType rest)
    (hclosures : rest.head?.any (·.isOneOf Keyword.closures) = false)
    (hbrace : rest.head?.any (·.isGroup '\x7b') = false) (hordered : AreOrdered (p :: rest)) :
    recordParts g (p :: rest) = [⟨(some (sourceOf [p]), none), 0, rest⟩] := by
  have hunmodified : IsUnmodified (p :: rest) :=
    ⟨by simpa [isOneOf_of_word? hp] using hmodifiers, isGroup_of_word? hp _⟩
  have htag : tag g Keyword.records (p :: rest) = [⟨sourceOf [p], 0, rest⟩] :=
    tag_cons hg hp hw (fun hmem => hw (by simp [Keyword.records] at hmem ⊢; grind)) hrest.unscoped
      hordered
  have hnone : word Keyword.closures (p :: rest) = [] :=
    word_eq_nil_of_word? hp fun hmem => hw (by simp [Keyword.records, hmem])
  -- Whether the name is taken or not, no fields follow.
  have hfields : ∀ ps name, word Keyword.closures ps = [] → ps.head?.any (·.isMark ':') = false →
      ps.head?.any (·.isGroup '\x7b') = false → (do
        let _ ← optional (word Keyword.closures)
        let _ ← optional (baseClasses g)
        let fields ← group '\x7b' fun r => r.members.map fun fields => ⟨fields, 0⟩
        return (name, some fields) : Reader (Option Text × Option (List Param))) ps = [] := by
    intro ps name hword hcolon hgroup
    have hbases : baseClasses g ps = [] := bind_eq_nil (mark_eq_nil hcolon)
    exact (bind_of_eq (optional_of_eq_nil hword)).trans
      ((bind_of_eq (optional_of_eq_nil hbases)).trans (bind_eq_nil (group_eq_nil hgroup)))
  have hfirst : (do
      let name ← optional (tag g Keyword.records)
      let _ ← optional (word Keyword.closures)
      let _ ← optional (baseClasses g)
      let fields ← group '\x7b' fun r => r.members.map fun fields => ⟨fields, 0⟩
      return (name, some fields) : Reader (Option Text × Option (List Param))) (p :: rest) =
      [] := by
    refine bind_eq_nil_of_forall fun x hx => ?_
    rcases rest_of_mem_optional hx with ⟨y, hy, hxy⟩ | hx
    · rw [htag, List.mem_singleton] at hy
      rw [hxy, hy]
      exact hfields rest _ (word_eq_nil hclosures) hrest.unscoped.colon hbrace
    · rw [hx]
      exact hfields _ _ hnone (isMark_of_word? hp _) (isGroup_of_word? hp _)
  have hcheck : check (fun ps => !ps.head?.any (·.isOneOf Keyword.closures)) rest =
      [⟨(), 0, rest⟩] := check_eq (by rw [hclosures]; rfl)
  refine (bind_of_eq (recordPrelude_eq hunmodified)).trans ?_
  refine (bind_of_eq ((orElse_of_left_eq_nil hfirst).trans ((bind_of_eq htag).trans
    (bind_of_eq hcheck)))).trans ?_
  exact bind_of_eq (dropOptionalAttribute_eq hrest.unmodified.attributes)

/-! ### Enumerations -/

/-- Members in braces are read with the word before them. -/
theorem enumerationParts_group {items : Weighted (List Enumerator)} (hp : p.isGroup '\x7b' = true)
    (hitems : p.readings.enumerators = some items)
    (hrest : rest.head?.any (·.isOneOf Keyword.attributes) = false) :
    enumerationParts g (p :: rest) = [⟨(none, some items.value), items.weight, rest⟩] := by
  have hclass : word ["class", "struct"] (p :: rest) = [] := word_eq_nil (isOneOf_of_isGroup hp _)
  have htag : tag g Keyword.enumerations (p :: rest) = [] := tag_eq_nil_of_isGroup hp
  have hgroup : group '\x7b' (·.enumerators) (p :: rest) = [⟨items.value, items.weight, rest⟩] :=
    group_cons hp hitems rest
  have hparts : ((do
      let items ← group '\x7b' (·.enumerators)
      return (none, some items))
    <|> (do
      let name ← tag g Keyword.enumerations
      let _ ← optional (enumerationBase g)
      let items ← optional (group '\x7b' (·.enumerators))
      return (some name, items)) : Reader (Option Text × Option (List Enumerator))) (p :: rest) =
        [⟨(none, some items.value), items.weight, rest⟩] := by
    rw [orElse_of_right_eq_nil (bind_eq_nil htag), bind_of_eq_weighted hgroup, pure_apply]
    simp
  have hskip := dropOptionalAttribute_eq hrest
  refine (bind_of_eq (optional_of_eq_nil hclass)).trans ((bind_of_eq_weighted hparts).trans ?_)
  rw [bind_of_eq hskip, pure_apply]
  simp

/-- A name alone is read with the word before it. -/
theorem enumerationParts_name (hg : g.IsAngled) (hp : p.word? = some w)
    (hw : w ∉ Keyword.enumerations) (hrest : EndsType rest)
    (hbrace : rest.head?.any (·.isGroup '\x7b') = false) (hordered : AreOrdered (p :: rest)) :
    enumerationParts g (p :: rest) = [⟨(some (sourceOf [p]), none), 0, rest⟩] := by
  have hclass : word ["class", "struct"] (p :: rest) = [] :=
    word_eq_nil_of_word? hp fun hmem => hw (by simp [Keyword.enumerations] at hmem ⊢; grind)
  have htag : tag g Keyword.enumerations (p :: rest) = [⟨sourceOf [p], 0, rest⟩] :=
    tag_cons hg hp hw (fun hmem => hw (by simp [Keyword.enumerations] at hmem ⊢; grind))
      hrest.unscoped hordered
  have hbase : enumerationBase g rest = [] := bind_eq_nil (mark_eq_nil hrest.unscoped.colon)
  have hitems : group '\x7b' (·.enumerators) rest = [] := group_eq_nil hbrace
  have hgroup : group '\x7b' (·.enumerators) (p :: rest) = [] :=
    group_eq_nil (isGroup_of_word? hp _)
  refine (bind_of_eq (optional_of_eq_nil hclass)).trans ?_
  refine (bind_of_eq ((orElse_of_left_eq_nil (bind_eq_nil hgroup)).trans ((bind_of_eq htag).trans
    ((bind_of_eq (optional_of_eq_nil hbase)).trans
      (bind_of_eq (optional_of_eq_nil hitems)))))).trans ?_
  exact bind_of_eq (dropOptionalAttribute_eq hrest.unmodified.attributes)

/-! ### Base types -/

private theorem tags_words : ∀ w ∈ Keyword.tags, w ∉ plainLeads := by decide +kernel

/-- A tagged type is a base type of no other kind. -/
theorem baseType_of_taggedType {make : Text → BaseType} {v : Int} (ps : List Piece)
    (hp : p.word? = some w) (hw : w ∈ Keyword.tags) (hreserved : w ∈ reserved)
    (h : taggedType g (p :: (ps ++ rest)) = [⟨make, v, rest⟩])
    (hrest : rest.head?.any (·.isOneOf ["auto"]) = false)
    (hordered : AreOrdered (p :: (ps ++ rest))) :
    baseType g reserved open_ (p :: (ps ++ rest)) = [⟨make (spelling (p :: ps)), v, rest⟩] := by
  have hplain : plainType g reserved open_ (p :: (ps ++ rest)) = [] :=
    plainType_eq_nil (name_cons_of_mem hp hreserved _)
      (by simpa [isOneOf_of_word? hp] using tags_words w hw) (isMark_of_word? hp _)
  have hread : (taggedType g <|> (do plainType g reserved open_; return BaseType.plain))
      ((p :: ps) ++ rest) = [⟨make, v, rest⟩] :=
    (orElse_of_right_eq_nil (bind_eq_nil hplain)).trans h
  exact baseType_of_eq hread hrest hordered

/-- The word that begins a structure or a union. -/
def recordWord (isUnion : Bool) : Text := if isUnion then "union" else "struct"

private theorem recordWord_words : ∀ isUnion, recordWord isUnion ∉ (["class", "enum"] : List Text) ∧
    recordWord isUnion ∉ [recordWord !isUnion] := by
  decide +kernel

theorem taggedType_record {isUnion : Bool} {tag : Option Text} {fields : Option (List Param)}
    (hp : p.word? = some (recordWord isUnion))
    (h : recordParts g ps = [⟨(tag, fields), 0, rest⟩]) :
    taggedType g (p :: ps) = [⟨.record isUnion tag fields, 0, rest⟩] := by
  have hothers : ((do
      word ["class"]
      let _ ← recordParts g
      return .plain)
    <|> do
      word ["enum"]
      let parts ← enumerationParts g
      return .enumeration parts.1 parts.2 : Reader (Text → BaseType)) (p :: ps) = [] :=
    BeginsWith.eq_nil hp (by simpa using (recordWord_words isUnion).1) ps
  have hword : word [recordWord isUnion] (p :: ps) = [⟨(), 0, ps⟩] :=
    word_cons (by simp [isOneOf_of_word? hp]) ps
  have hother : word [recordWord !isUnion] (p :: ps) = [] :=
    word_eq_nil_of_word? hp (recordWord_words isUnion).2
  cases isUnion with
  | false =>
    refine (orElse_of_right_eq_nil (orElse_eq_nil (bind_eq_nil hother) hothers)).trans ?_
    exact (bind_of_eq hword).trans (bind_of_eq h)
  | true =>
    refine (orElse_of_left_eq_nil (bind_eq_nil hother)).trans ?_
    exact (orElse_of_right_eq_nil hothers).trans ((bind_of_eq hword).trans (bind_of_eq h))

theorem taggedType_enum {tag : Option Text} {items : Option (List Enumerator)} {v : Int}
    (hp : p.word? = some ("enum" : Text))
    (h : enumerationParts g ps = [⟨(tag, items), v, rest⟩]) :
    taggedType g (p :: ps) = [⟨.enumeration tag items, v, rest⟩] := by
  have hone : ∀ u ∈ (["struct", "union", "class"] : List Text), word [u] (p :: ps) = [] := by
    intro u hu
    refine word_eq_nil_of_word? hp fun hmem => ?_
    rw [← List.mem_singleton.mp hmem] at hu
    exact absurd hu (by with_unfolding_all decide)
  have hword : word ["enum"] (p :: ps) = [⟨(), 0, ps⟩] :=
    word_cons (by rw [isOneOf_of_word? hp]; with_unfolding_all decide) ps
  let given (parts : Option Text × Option (List Enumerator)) : Reader (Text → BaseType) :=
    pure (.enumeration parts.1 parts.2)
  have hread : (enumerationParts g >>= given) ps = [⟨.enumeration tag items, v, rest⟩] := by
    have hgiven : given (tag, items) rest = [⟨.enumeration tag items, 0, rest⟩] := rfl
    rw [bind_of_eq_weighted h, hgiven]
    simp
  refine (orElse_of_left_eq_nil (bind_eq_nil (hone _ (by simp)))).trans ?_
  refine (orElse_of_left_eq_nil (bind_eq_nil (hone _ (by simp)))).trans ?_
  refine (orElse_of_left_eq_nil (bind_eq_nil (hone _ (by simp)))).trans ?_
  exact (bind_of_eq hword).trans hread

end Bindery.Header
