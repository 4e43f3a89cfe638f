import Bindery.Declaration.Basic
import Bindery.Documentation.Corpus
import Bindery.Naming

/-!
# Faults of single declarations

Why a declaration gets no binding. A fault concerns one declaration only; the others are bound as
if it were not there.
-/

namespace Bindery

/-- Why a declaration gets no binding. -/
inductive BindingFault where
  /-- A name that is not the library's. -/
  | foreignName (name : Text)
  /-- A record has a field that cannot be referred to. -/
  | unnamedField (record : Text)
  /-- An enumeration has neither a name nor members. -/
  | emptyEnumeration
  /-- A marker asks for a block of documentation that is not there. -/
  | missingBlock (number size : Nat)
  /-- A marker names neither a block nor a module. -/
  | unknownMarker (name : Text)
  deriving DecidableEq, Repr

namespace BindingFault

/-- A text between backquotes. -/
def quote (t : Text) : Text := "`" ++ t ++ "`"

/-- What is missing in a declaration without a necessary part. -/
def malformed (name reason : Text) : Text :=
  "malformed declaration " ++ quote name ++ ": " ++ reason

/-- The fault in words. -/
def message : BindingFault → Text
  | foreignName name => quote name ++ " does not carry the " ++ quote libraryLead ++
      " library prefix"
  | unnamedField record => malformed record "unnamed field"
  | emptyEnumeration => malformed anonymous "enum has neither a name nor enumerators"
  | missingBlock number size =>
    "documentation block " ++ Text.ofNat number ++ " does not exist (corpus has " ++
      Text.ofNat size ++ " blocks)"
  | unknownMarker name =>
    "marker " ++ quote name ++ " is neither a doc marker nor a module marker"

/-- The short name of the kind of fault. -/
def code : BindingFault → Text
  | foreignName _ => "sfgen::naming"
  | unnamedField _ | emptyEnumeration => "sfgen::malformed"
  | missingBlock _ _ => "sfgen::doc_index"
  | unknownMarker _ => "sfgen::marker"

/-- How to mend the fault, where that can be said. -/
def help : BindingFault → Option Text
  | missingBlock _ _ => some "doc markers are 1-based"
  | unknownMarker _ => some "module markers need an underscore, e.g. `csfml_Window`"
  | _ => none

end BindingFault

/-- A library name without the library's beginning. -/
def bareName (name : Text) : Except BindingFault Text :=
  match bareName? name with
  | some bare => .ok bare
  | none => .error (.foreignName name)

/-- Only a name that is not the library's is refused, and the refusal says which. -/
theorem bareName_eq_error_iff {name : Text} {fault : BindingFault} :
    bareName name = .error fault ↔ bareName? name = none ∧ fault = .foreignName name := by
  unfold bareName
  cases bareName? name <;> simp [eq_comm]

/-- The block of a corpus with a number. -/
def Corpus.block (c : Corpus) (number : Nat) : Except BindingFault Text :=
  match c.block? number with
  | some block => .ok block
  | none => .error (.missingBlock number c.size)

/-- Only a number without a block is refused. -/
theorem Corpus.block_eq_error_iff {c : Corpus} {number : Nat} {fault : BindingFault} :
    c.block number = .error fault ↔
      (number = 0 ∨ c.size < number) ∧ fault = .missingBlock number c.size := by
  have h := c.isSome_block?_iff (i := number)
  unfold Corpus.block
  cases hb : c.block? number with
  | none =>
    simp only [hb, Option.isSome_none, Bool.false_eq_true, false_iff, not_and, Nat.not_le] at h
    simp only [Except.error.injEq]
    constructor
    · rintro rfl
      exact ⟨by omega, rfl⟩
    · exact fun h => h.2.symm
  | some block =>
    simp only [hb, Option.isSome_some, true_iff] at h
    simp only [reduceCtorEq, false_iff, not_and]
    omega

end Bindery
