import Bindery.Header.Item
import Bindery.Proofs.Canonical
import Bindery.Proofs.ValueWeight

/-!
# Words with a meaning and identifiers

The readers of a header go by lists of words that cannot be names where they read. What is in these
lists is reserved, or a type by itself, or one of the few words that an ordinary declaration avoids.
So an identifier of an ordinary declaration is in none of the lists that count at its place.
-/

namespace Bindery.Canonical

open Header

variable {words special : List Text}

/-- Some words are all reserved but for a few. -/
def Covers (special words : List Text) : Prop := ∀ w ∈ words, isReserved w = true ∨ w ∈ special

instance : Decidable (Covers special words) := List.decidableBAll _ words

/-- Words that begin something else where a type could begin, besides those that size or qualify
one. -/
def openings : List Text :=
  Keyword.tags ++ Keyword.conventions ++
    (["typename", "auto", "decltype", "template", "this", "constexpr", "extern", "inline",
      "__extension__", "explicit", "friend", "public", "private", "protected"] : List Text) ++
    (["typedef", "using", "namespace", "static_assert", "concept", "if", "switch", "case",
      "default", "while", "do", "for", "return", "break", "continue", "goto", "try", "throw",
      "co_return", "co_yield", "operator"] : List Text)

-- One evaluation of all of them spells out each word only once.
private theorem covers_keywords :
    (Covers (operands ++ qualifiers ++ Keyword.primitives) Keyword.statements ∧
      Covers (operands ++ qualifiers ++ Keyword.primitives) Keyword.parameters ∧
      Covers ([] ++ qualifiers ++ Keyword.primitives) Keyword.members ∧
      Covers (qualifiers ++ Keyword.primitives) Keyword.types) ∧
    (Covers qualifiers Keyword.declarators ∧ Covers qualifiers Keyword.fields ∧
      Covers qualifiers (Keyword.definitions ++ Keyword.sizes) ∧
      Covers (qualifiersBehind 1) Keyword.pointers) ∧
    (Covers (Keyword.closures ++ qualifiers)
        (Keyword.records ++ (Keyword.closures ++ Keyword.definitions)) ∧
      Covers [] Keyword.enumerations ∧
      Covers (typesAndOperators ++ Keyword.values) Keyword.operands) ∧
    (Covers (operands ++ Keyword.primitives) Keyword.operands ∧ Covers typesAndOperators valueless ∧
      Covers [] operatorWords) ∧
    Covers [] (Keyword.infixes ++ Keyword.assignments) ∧ Covers [] (Keyword.sizes ++ openings) ∧
    Covers [] Item.beginningWords := by
  decide +kernel

theorem covers_statements :
    Covers (operands ++ qualifiers ++ Keyword.primitives) Keyword.statements :=
  covers_keywords.1.1

theorem covers_parameters :
    Covers (operands ++ qualifiers ++ Keyword.primitives) Keyword.parameters :=
  covers_keywords.1.2.1

theorem covers_members : Covers ([] ++ qualifiers ++ Keyword.primitives) Keyword.members :=
  covers_keywords.1.2.2.1

theorem covers_types : Covers (qualifiers ++ Keyword.primitives) Keyword.types :=
  covers_keywords.1.2.2.2

theorem covers_declarators : Covers qualifiers Keyword.declarators := covers_keywords.2.1.1

theorem covers_fields : Covers qualifiers Keyword.fields := covers_keywords.2.1.2.1

theorem covers_definitions : Covers qualifiers (Keyword.definitions ++ Keyword.sizes) :=
  covers_keywords.2.1.2.2.1

theorem covers_pointers : Covers (qualifiersBehind 1) Keyword.pointers :=
  covers_keywords.2.1.2.2.2

theorem covers_records :
    Covers (Keyword.closures ++ qualifiers)
      (Keyword.records ++ (Keyword.closures ++ Keyword.definitions)) :=
  covers_keywords.2.2.1.1

theorem covers_enumerations : Covers [] Keyword.enumerations := covers_keywords.2.2.1.2.1

theorem covers_operands : Covers (typesAndOperators ++ Keyword.values) Keyword.operands :=
  covers_keywords.2.2.1.2.2

theorem covers_operands_of_types : Covers (operands ++ Keyword.primitives) Keyword.operands :=
  covers_keywords.2.2.2.1.1

theorem covers_valueless : Covers typesAndOperators valueless := covers_keywords.2.2.2.1.2.1

theorem covers_operatorWords : Covers [] operatorWords := covers_keywords.2.2.2.1.2.2

theorem covers_infixes : Covers [] (Keyword.infixes ++ Keyword.assignments) :=
  covers_keywords.2.2.2.2.1

theorem covers_openings : Covers [] (Keyword.sizes ++ openings) := covers_keywords.2.2.2.2.2.1

theorem covers_beginningWords : Covers [] Item.beginningWords := covers_keywords.2.2.2.2.2.2

/-- Fewer words are covered as well. -/
theorem Covers.of_subset {some : List Text} (h : Covers special words) (hsome : some ⊆ words) :
    Covers special some :=
  fun w hw => h w (hsome hw)

theorem Identifier.avoids_nil (name : Identifier) : name.avoids [] = true := rfl

/-- What is none of some words and none of others is none of them all. -/
theorem Identifier.avoids_append {name : Identifier} (h : name.avoids special = true)
    (h' : name.avoids words = true) : name.avoids (special ++ words) = true := by
  rw [avoids, Bool.not_eq_true', List.contains_eq_mem, decide_eq_false_iff_not] at h h' ⊢
  exact fun hmem => (List.mem_append.mp hmem).elim h h'

theorem Identifier.contains_eq_false {name : Identifier} (h : name.avoids special = true)
    (hcovers : Covers special words) : words.contains name.text = false := by
  rw [Bool.eq_false_iff]
  intro hmem
  rw [avoids, Bool.not_eq_true'] at h
  rcases hcovers _ (List.contains_iff_mem.mp hmem) with hreserved | hspecial
  · rw [name.isFree] at hreserved
    cases hreserved
  · rw [List.contains_iff_mem.mpr hspecial] at h
    cases h

theorem covers_modifiers : Covers qualifiers Keyword.modifiers :=
  covers_declarators.of_subset fun w hw => by simp [Keyword.declarators, hw]

theorem typeLeads_subset : typeLeads ⊆ Keyword.sizes ++ openings := fun w hw => by
  simp only [typeLeads, openings, List.mem_append, List.mem_cons, List.not_mem_nil] at hw ⊢
  grind

section Identifiers

variable {name : Identifier}

theorem Identifier.not_mem (h : name.avoids special = true) (hcovers : Covers special words) :
    name.text ∉ words := by
  have hcontains := Identifier.contains_eq_false h hcovers
  rwa [List.contains_eq_mem, decide_eq_false_iff_not] at hcontains

theorem Identifier.avoids_of_subset (h : name.avoids special = true) (hsub : words ⊆ special) :
    name.avoids words = true := by
  rw [avoids, Bool.not_eq_true', List.contains_eq_mem, decide_eq_false_iff_not] at h ⊢
  exact fun hmem => h (hsub hmem)

theorem Identifier.avoids_qualifiers {n : Nat} (h : name.avoids (qualifiersBehind n) = true) :
    name.avoids qualifiers = true :=
  Identifier.avoids_of_subset h (by cases n <;> simp [qualifiersBehind])

/-- What is in no list of words that begin something else begins none of it. -/
theorem Identifier.not_mem_openings (name : Identifier) :
    name.text ∉ Keyword.sizes ++ openings :=
  name.not_mem name.avoids_nil covers_openings

end Identifiers

end Bindery.Canonical
