import Bindery.Proofs.StatementReading
import Bindery.Proofs.TagReading

/-!
# Reading contents

By the word that a content begins with, all kinds of content but a few are excluded. What begins as
a type definition is one, and what begins as an enumeration is a type specifier on its own.
-/

namespace Bindery.Header

open Reader Piece

variable {g : Phrases} {p q t : Piece} {ps rest tail : List Piece} {w : Text}

/-! ### Kinds of content -/

/-- Words that begin a content that is neither a declaration nor a statement. -/
def contentLeads : List Text :=
  ["extern", "inline", "namespace", "using", "static_assert", "concept", "template"]

/-- What is no statement and nothing with a body is a declaration, or defines types. -/
theorem content_eq {top : Bool} (hp : p.word? = some w) (hw : w ∉ contentLeads)
    (hfunction : functionDefinition g Keyword.statements .declaration (p :: ps) = [])
    (hconstructor : constructorHead g Keyword.statements (p :: ps) = [])
    (hconversion : conversionHead g (p :: ps) = [])
    (hstatement : statement g top (p :: ps) = []) :
    content g top (p :: ps) =
      (declaration g <|> emptyDeclaration g <|> typeDefinition g) (p :: ps) := by
  have hothers : (linkage g <|> namespaceDefinition <|> usingDeclaration g <|>
      aliasDeclaration g <|> assertion g <|> concept g <|> templateDeclaration g) (p :: ps) =
      [] := by
    refine BeginsWith.eq_nil hp (fun hmem => hw ?_) ps
    exact (by decide +kernel : _ ⊆ contentLeads) hmem
  have hdirectives : (directive <|> conditional (·.block)) (p :: ps) = [] :=
    BeginsWith.eq_nil hp List.not_mem_nil ps
  have hnothing : (do
      functionDefinition g Keyword.statements .declaration <|>
        constructorDefinition g Keyword.statements <|> conversionDefinition g <|> linkage g <|>
        namespaceDefinition <|> usingDeclaration g <|> aliasDeclaration g <|> assertion g <|>
        concept g <|> templateDeclaration g
      return .nothing : Reader Content) (p :: ps) = [] :=
    bind_eq_nil (orElse_eq_nil hfunction (orElse_eq_nil (bind_eq_nil hconstructor)
      (orElse_eq_nil (bind_eq_nil hconversion) hothers)))
  have hdeclared : declared g (p :: ps) =
      (declaration g <|> emptyDeclaration g <|> typeDefinition g) (p :: ps) := by
    rw [declared]
    simp only [orElse_apply] at hnothing ⊢
    rw [hnothing, List.append_nil]
  refine (orElse_of_right_eq_nil (orElse_eq_nil ?_ ?_)).trans hdeclared
  · exact bind_eq_nil (orElse_eq_nil hstatement hdirectives)
  · exact bind_eq_nil (bind_eq_nil hconversion)

private theorem definition_words : ∀ w ∈ (["typedef", "enum"] : List Text),
    w ∉ contentLeads ∧ w ∉ statementLeads ∧ w ∉ Keyword.modifiers ∧ w ∉ Keyword.conventions ∧
      w ∉ (["explicit", "operator"] : List Text) ∧ w ∈ Keyword.statements ∧
      w ∈ Keyword.statementStarts ∧ w ∈ Keyword.withoutType Keyword.statements := by
  decide +kernel

/-- Nor are definitions of types, and enumerations, of another kind. -/
theorem content_definition_eq {top : Bool} (hp : p.word? = some w)
    (hw : w ∈ (["typedef", "enum"] : List Text)) (hps : IsUnscoped ps)
    (hfunction : functionDefinition g Keyword.statements .declaration (p :: ps) = []) :
    content g top (p :: ps) =
      (declaration g <|> emptyDeclaration g <|> typeDefinition g) (p :: ps) := by
  obtain ⟨hleads, hstatements, hmodifiers, -, hspecial, hreserved, hstarts, htyped⟩ :=
    definition_words w hw
  have hunmodified : IsUnmodified (p :: ps) :=
    isUnmodified_of_word? hp hmodifiers
  have hskip : skip (dropAll dropConstructorModifier?) (p :: ps) = [⟨(), 0, p :: ps⟩] := by
    have hexplicit : p.isOneOf ["explicit"] = false := by
      have hnot : w ∉ (["explicit"] : List Text) := fun hmem => hspecial (by simp_all)
      simpa [isOneOf_of_word? hp] using hnot
    rw [skip, dropAll_eq]
    rw [dropConstructorModifier?, hunmodified.takeModifier?, hexplicit]
    rfl
  refine content_eq hp hleads hfunction ?_ ?_ ?_
  · refine (bind_of_eq hskip).trans (bind_eq_nil (check_eq_nil ?_))
    simpa [isOneOf_of_word? hp] using htyped
  · have hscopes : scopes g Keyword.statements (p :: ps) = [] :=
      bind_eq_nil (check_eq_nil (mayBeScope_eq_false (isMark_of_word? hp _) hps))
    refine (bind_of_eq hskip).trans ((bind_of_eq (optional_of_eq_nil hscopes)).trans ?_)
    exact bind_eq_nil (word_eq_nil_of_word? hp fun hmem => hspecial (by simp_all))
  · refine statement_eq_nil hp hstatements ?_ (Or.inl hreserved)
    refine bind_eq_nil (bind_eq_nil (check_eq_nil ?_))
    simpa [isOneOf_of_word? hp] using hstarts

/-! ### Type specifiers on their own -/

/-- An enumeration with nothing but a semicolon behind it is a type specifier on its own. -/
theorem readsOnly_content_enum [g.TakeFront] {base : BaseType} {v : Int} {front : List Piece}
    (hp : p.word? = some ("enum" : Text)) (hq : q.isMark ';' = true)
    (hunscoped : IsUnscoped (front ++ [q]))
    (hbase : baseType g Keyword.statements false (p :: (front ++ [q])) = [⟨base, v, [q]⟩]) :
    ReadsOnly (content g true) (p :: (front ++ [q])) ⟨.tagged base, v, []⟩ := by
  have hmem : ("enum" : Text) ∈ (["typedef", "enum"] : List Text) := by simp
  obtain ⟨-, -, hmodifiers, hconventions, -⟩ := definition_words _ hmem
  have hends : EndsPhrase [q] := .semicolon hq []
  have hunmodified : IsUnmodified (p :: (front ++ [q])) :=
    isUnmodified_of_word? hp hmodifiers
  have hspecifiers : specifiers g Keyword.statements (p :: (front ++ [q])) =
      [⟨⟨base, false⟩, v, [q]⟩] := by
    refine (bind_of_eq hunmodified.modifiers_eq).trans ((bind_of_eq_weighted hbase).trans ?_)
    rw [bind_of_eq hends.isUnmodified.modifiers_eq, pure_apply]
    simp
  have hnone : ∀ y ∈ declarator g .declaration [q], False := by
    intro y hy
    rw [hends.declarator_eq_nil] at hy
    exact List.not_mem_nil hy
  have hfunction : functionDefinition g Keyword.statements .declaration (p :: (front ++ [q])) =
      [] := functionDefinition_eq_nil (by simpa [isOneOf_of_word? hp] using hconventions)
      (readsOnly_of_eq hspecifiers) (hends.isOneOf _) fun y hy => (hnone y hy).elim
  have hdeclaration : declaration g (p :: (front ++ [q])) = [] := by
    have hinit : initDeclarator g [q] = [] := settle_eq_nil (bind_eq_nil hends.declarator_eq_nil)
    refine bind_eq_nil_of_forall fun x hx => ?_
    rw [hspecifiers, List.mem_singleton] at hx
    rw [hx]
    exact bind_eq_nil (commas_eq_nil hinit)
  have hdefinition : typeDefinition g (p :: (front ++ [q])) = [] :=
    BeginsWith.eq_nil hp (by with_unfolding_all decide) _
  have hempty : emptyDeclaration g (p :: (front ++ [q])) = [⟨.tagged base, v, []⟩] := by
    refine (bind_of_eq_weighted hbase).trans ?_
    rw [bind_of_eq (mark_cons hq []), pure_apply]
    simp
  refine readsOnly_of_eq ((content_definition_eq hp hmem hunscoped hfunction).trans ?_)
  exact (orElse_of_left_eq_nil hdeclaration).trans
    ((orElse_of_right_eq_nil hdefinition).trans hempty)

/-! ### Type definitions -/

/-- What a type definition makes of a base type. -/
def definedAs (g : Phrases) (base : BaseType) : Reader Content := do
  let _ ← qualifiers
  let ds ← commas (declarator g .definition)
  attributes
  mark ';'
  match ds with
  | d :: _ => return .defined base d.shape
  | [] => fail

private theorem typedef_words : ("typedef" : Text) ∉ Keyword.tags ++ plainLeads := by decide +kernel

/-- What begins as a type definition is one. -/
theorem content_typedef_eq {top : Bool} (ht : t.word? = some ("typedef" : Text))
    (hps : IsUnmodified ps) (hunscoped : IsUnscoped ps) :
    content g top (t :: ps) = (baseType g Keyword.types true >>= definedAs g) ps := by
  have hmem : ("typedef" : Text) ∈ (["typedef", "enum"] : List Text) := by simp
  obtain ⟨-, -, hmodifiers, hconventions, -, hreserved, -⟩ := definition_words _ hmem
  have hunmodified : IsUnmodified (t :: ps) :=
    isUnmodified_of_word? ht hmodifiers
  have hname : name Keyword.statements (t :: ps) = [] := name_cons_of_mem ht hreserved ps
  have hwords : (t :: ps).head?.any (·.isOneOf (Keyword.tags ++ plainLeads)) = false := by
    simpa only [List.head?_cons, Option.any_some, isOneOf_of_word? ht, List.contains_eq_mem,
      decide_eq_false_iff_not] using typedef_words
  have hcolon : (t :: ps).head?.any (·.isMark ':') = false := isMark_of_word? ht _
  have hspecifiers : specifiers g Keyword.statements (t :: ps) = [] :=
    specifiers_eq_nil hunmodified hname hwords hcolon
  have hfunction : functionDefinition g Keyword.statements .declaration (t :: ps) = [] :=
    (bind_of_eq (optional_of_eq_nil (word_eq_nil_of_word? ht hconventions))).trans
      (bind_eq_nil hspecifiers)
  have hempty : emptyDeclaration g (t :: ps) = [] :=
    bind_eq_nil (baseType_eq_nil hname hwords hcolon)
  have hextension : word ["__extension__"] (t :: ps) = [] :=
    word_eq_nil_of_word? ht (by with_unfolding_all decide)
  have hword : word ["typedef"] (t :: ps) = [⟨(), 0, ps⟩] :=
    word_cons (by rw [isOneOf_of_word? ht]; with_unfolding_all decide) ps
  refine (content_definition_eq ht hmem hunscoped hfunction).trans ?_
  refine (orElse_of_left_eq_nil (bind_eq_nil hspecifiers)).trans
    ((orElse_of_left_eq_nil hempty).trans ?_)
  exact (bind_of_eq (optional_of_eq_nil hextension)).trans
    ((bind_of_eq hword).trans (bind_of_eq hps.qualifiers_eq))

/-- Pieces behind a base type that define a type: a declarator and a semicolon. -/
structure IsDefined (g : Phrases) (tail : List Piece) (d : Declarator) (u : Int) (q : Piece) :
    Prop where
  /-- They do not go on with the base type. -/
  ends : EndsType tail
  /-- They begin with no parameters. -/
  params : group '(' (·.params) tail = []
  /-- They begin neither with a comma nor with a semicolon. -/
  mark : ∀ c ∈ [',', ';'], tail.head?.any (·.isMark c) = false
  /-- The declarator is read up to the semicolon. -/
  declarator : IsFurthest (Header.declarator g .definition) tail ⟨d, u, [q]⟩
  /-- Otherwise parentheses are left of it. -/
  rests : ∀ y ∈ Header.declarator g .definition tail,
    y.rest = [q] ∨ y.rest.head?.any (·.isGroup '(') = true
  /-- The semicolon ends the definition. -/
  semicolon : q.isMark ';' = true

namespace IsDefined

variable {base : BaseType} {d : Declarator} {u : Int} (h : IsDefined g tail d u q)

include h

theorem ne_nil : tail ≠ [] := by
  rintro rfl
  have hends : EndsPhrase [] := fun _ hq => nomatch hq
  have hmem := h.declarator.mem
  rw [hends.declarator_eq_nil] at hmem
  exact List.not_mem_nil hmem

/-- They are read in one way only. -/
theorem readsOnly_definedAs :
    ReadsOnly (definedAs g base) tail ⟨.defined base d.shape, u, []⟩ := by
  have hgroup : ∀ {ps : List Piece}, ps.head?.any (·.isGroup '(') = true →
      ∃ r rs, ps = r :: rs ∧ r.isGroup '(' = true := by
    intro ps hps
    cases ps with
    | nil => cases hps
    | cons r rs => exact ⟨r, rs, rfl, hps⟩
  let ending (ds : List Declarator) : Reader Content := do
    attributes
    Reader.mark ';'
    match ds with
    | d :: _ => return .defined base d.shape
    | [] => fail
  have hattributes : ([q] : List Piece).head?.any (·.isOneOf Keyword.attributes) = false :=
    isOneOf_of_isMark h.semicolon _
  have hending : ending [d] [q] = [⟨.defined base d.shape, 0, []⟩] :=
    (bind_of_eq (attributes_eq hattributes)).trans (bind_of_eq (mark_cons h.semicolon []))
  have hread := h.declarator.commas_bind (f := ending) h.ne_nil (fun y hy => ?_) (fun y hy => ?_)
    (readsOnly_of_eq hending)
  · rw [behind_mk, Int.add_zero] at hread
    exact hread.of_eq (bind_of_eq h.ends.unmodified.qualifiers_eq)
  · rcases h.rests y hy with hy | hy
    · rw [hy]
      exact isMark_of_isMark h.semicolon (by decide)
    · obtain ⟨r, rs, hrest, hr⟩ := hgroup hy
      rw [hrest]
      exact isMark_of_isGroup hr _
  · refine (h.rests y hy).imp id fun hy ds => ?_
    obtain ⟨r, rs, hrest, hr⟩ := hgroup hy
    have hnone : (r :: rs).head?.any (·.isOneOf Keyword.attributes) = false :=
      isOneOf_of_isGroup hr _
    rw [hrest]
    exact (bind_of_eq (attributes_eq hnone)).trans
      (bind_eq_nil (mark_eq_nil (isMark_of_isGroup hr _)))

/-- A name before them defines no type. -/
theorem definedAs_name_eq_nil (hg : g.IsAngled) (hp : p.word? = some w)
    (hw : w ∉ Place.definition.reserved) (hmodifiers : w ∉ Keyword.modifiers) :
    definedAs g base (p :: tail) = [] := by
  have hname : ∀ y ∈ Header.declarator g .definition (p :: tail), y.rest = tail := by
    intro y hy
    replace hy := mem_settle _ hy
    have hread := declaratorUpTo_name hg hp hw h.ends.unscoped (tail.length + 1)
    rw [declaratorSuffixes_eq h.params h.ends.unmodified.group] at hread
    have hone : y ∈ declaratorUpTo g .definition (tail.length + 1 + 1) (p :: tail) := hy
    rw [hread, List.map_singleton, List.mem_singleton] at hone
    rw [hone]
    rfl
  have hunmodified : IsUnmodified (p :: tail) := isUnmodified_of_word? hp hmodifiers
  refine (bind_of_eq hunmodified.qualifiers_eq).trans (bind_eq_nil_of_forall fun y hy => ?_)
  obtain ⟨x, hx, -, hbehind⟩ := exists_of_mem_commas hy
  have hcomma : Reader.mark ',' x.rest = [] := by
    rw [hname x hx]
    exact mark_eq_nil (h.mark _ (by simp))
  rw [hbehind hcomma, hname x hx]
  exact (bind_of_eq (attributes_eq h.ends.unmodified.attributes)).trans
    (bind_eq_nil (mark_eq_nil (h.mark _ (by simp))))

end IsDefined

end Bindery.Header
