import Bindery.Header.Expression
import Bindery.Proofs.ReaderFront

/-!
# Phrases take from the front

Modifiers, names, types and expressions take pieces from the front, in every layer of phrases that
contain one another. A name and a base type take one piece at least.
-/

namespace Bindery.Header

open Reader

/-! ### Modifiers -/

instance : MayDropFront dropAttribute? where
  suffix {ps rest} h := by
    unfold dropAttribute? at h
    split at h
    · split at h
      · split at h
        · split at h
          · cases h
            exact ⟨[_, _], rfl⟩
          · cases h
        · cases h
      · cases h
    · cases h

instance : MayDropFront dropExport? where
  suffix {ps rest} h := by
    unfold dropExport? at h
    split at h
    · split at h
      · split at h
        · split at h
          · cases h
            exact ⟨[_, _], rfl⟩
          · cases h
        · cases h
      · cases h
    · cases h

instance : MayDropFront dropBracketAttributes? where
  suffix {ps rest} h := by
    unfold dropBracketAttributes? at h
    split at h
    · dsimp only at h
      split at h
      · cases h
        exact List.suffix_cons _ _
      · cases h
    · cases h

instance : MayDropFront dropAlignment? where
  suffix {ps rest} h := by
    unfold dropAlignment? at h
    split at h
    · split at h
      · cases h
        exact ⟨[_, _], rfl⟩
      · cases h
    · cases h

instance : MayDropFront dropPointerQualifier? where
  suffix {ps rest} h := by
    unfold dropPointerQualifier? at h
    split at h
    · cases h
    · split at h
      · cases h
        exact List.suffix_cons _ _
      · cases h

theorem takeQualifier?_suffix {ps : List Piece} {taken : Bool × List Piece}
    (h : takeQualifier? ps = some taken) : taken.2 <:+ ps := by
  unfold takeQualifier? at h
  split at h
  · cases h
  · split at h
    · cases h
      exact List.suffix_cons _ _
    · obtain ⟨rest, hrest, rfl⟩ := Option.map_eq_some_iff.mp h
      exact MayDropFront.suffix hrest

instance : TakesFront qualifiers where
  suffix h := by
    rw [List.mem_singleton.mp h]
    exact takeRepeatedly_suffix takeQualifier?_suffix _ _

instance : TakesFront attributes := by unfold attributes; infer_instance
instance : TakesFront pointerMark := by unfold pointerMark; infer_instance
instance : TakesFront memberPointer := by unfold memberPointer; infer_instance
instance : TakesFront referenceMark := by unfold referenceMark; infer_instance

/-! ### Names -/

instance : TakesFront colons := by unfold colons; infer_instance
instance : TakesPiece colons := takesPiece_symbol (by with_unfolding_all decide)
instance : TakesFront notAScope := by unfold notAScope; infer_instance
instance : TakesFront typeOfOperand := by unfold typeOfOperand; infer_instance
instance : TakesPiece typeOfOperand := by unfold typeOfOperand; infer_instance

instance (opening : Char) : TakesFront (emptyBrackets opening) := by
  unfold emptyBrackets
  infer_instance

instance : TakesFront operatorSymbol where
  suffix h := by
    obtain ⟨rest, hrest, rfl⟩ := List.mem_map.mp h
    obtain ⟨cs, _, hcs⟩ := List.exists_of_findSome?_eq_some (Option.mem_toList.mp hrest)
    exact behindSymbol_suffix hcs

instance : TakesFront operatorName := by unfold operatorName; infer_instance
instance : TakesFront destructorName := by unfold destructorName; infer_instance

/-- The readers of a layer take from the front. -/
class Phrases.TakeFront (g : Phrases) : Prop where
  expression : ∀ angled, TakesFront (g.expression angled)
  operand : ∀ angled, TakesFront (g.operand angled)
  specifier : TakesFront g.specifier
  typeName : TakesFront g.typeName
  templateArguments : TakesFront g.templateArguments

attribute [instance] Phrases.TakeFront.expression Phrases.TakeFront.operand
  Phrases.TakeFront.specifier Phrases.TakeFront.typeName Phrases.TakeFront.templateArguments

section Phrases

variable (g : Phrases) [g.TakeFront]

instance : TakesFront (announcedTemplate g) := by unfold announcedTemplate; infer_instance
instance : TakesPiece (announcedTemplate g) := by unfold announcedTemplate; infer_instance

theorem takesFront_behindScopesUpTo (last : Reader Unit) [TakesFront last] (n : Nat) :
    TakesFront (behindScopesUpTo g last n) := by
  induction n with
  | zero => exact inferInstanceAs (TakesFront fail)
  | succ n ih =>
    unfold behindScopesUpTo
    infer_instance

instance (last : Reader Unit) [TakesFront last] : TakesFront (behindScopes g last) where
  suffix := (takesFront_behindScopesUpTo g last _).suffix

instance (reserved : List Text) (last : Reader Unit) [TakesFront last] :
    TakesFront (qualifiedName g reserved last) := by
  unfold qualifiedName
  infer_instance

instance (reserved : List Text) (last : Reader Unit) [TakesFront last] :
    TakesPiece (qualifiedName g reserved last) := by
  unfold qualifiedName
  infer_instance

instance (reserved : List Text) : TakesFront (namedType g reserved) := by
  unfold namedType
  infer_instance

instance (reserved : List Text) : TakesPiece (namedType g reserved) := by
  unfold namedType
  infer_instance

/-! ### Type specifiers -/

instance (reserved : List Text) : TakesFront (tag g reserved) := by unfold tag; infer_instance
instance : TakesFront (baseClass g) := by unfold baseClass; infer_instance
instance : TakesFront (baseClasses g) := by unfold baseClasses; infer_instance
instance : TakesFront recordPrelude := by unfold recordPrelude; infer_instance
instance : TakesFront (recordParts g) := by unfold recordParts; infer_instance

instance (reserved : List Text) : TakesFront (sizedType.core reserved) := by
  unfold sizedType.core
  infer_instance

instance (reserved : List Text) : TakesPiece (sizedType.core reserved) := by
  unfold sizedType.core
  infer_instance

theorem mem_sizes {open_ required : Bool} {ps : List Piece} {x : Parse Unit}
    (h : x ∈ sizedType.sizes open_ required ps) :
    ∃ front, front ++ x.rest = ps ∧ (required = true → front ≠ []) := by
  have hsplit := List.takeWhile_append_dropWhile (p := (·.isOneOf Keyword.sizes)) (l := ps)
  have hleast : required = true → (if required then 1 else 0) = 1 := fun hrequired => if_pos hrequired
  unfold sizedType.sizes at h
  dsimp only at h
  generalize (if required then 1 else 0) = least at h hleast
  rcases List.mem_append.mp h with h | h
  · split at h
    · next hlength =>
      rw [List.mem_singleton.mp h]
      refine ⟨_, hsplit, fun hrequired hnil => ?_⟩
      rw [hnil, hleast hrequired, List.length_nil] at hlength
      omega
    · exact absurd h List.not_mem_nil
  · split at h
    · next last hlast =>
      split at h
      · next hopen =>
        rw [List.mem_singleton.mp h]
        -- The last word that gives a size is left to be a name.
        obtain ⟨front, hfront⟩ := List.getLast?_eq_some_iff.mp hlast
        refine ⟨front, ?_, fun hrequired hnil => ?_⟩
        · rw [List.append_cons, ← hfront, hsplit]
        · rw [hfront, hnil, hleast hrequired] at hopen
          simp at hopen
      · exact absurd h List.not_mem_nil
    · exact absurd h List.not_mem_nil

section SizedType

variable (reserved : List Text) (open_ : Bool)

theorem takesFront_sizes (required : Bool) :
    TakesFront (sizedType.sizes open_ required : Reader Unit) where
  suffix h := by
    obtain ⟨front, hfront, _⟩ := mem_sizes h
    exact ⟨front, hfront⟩

theorem takesPiece_sizes : TakesPiece (sizedType.sizes open_ true : Reader Unit) where
  length_lt h := by
    obtain ⟨front, hfront, hne⟩ := mem_sizes h
    have hlength := List.length_pos_iff.mpr (hne rfl)
    rw [← hfront, List.length_append]
    omega

instance : TakesFront (sizedType reserved open_) := by
  have hfront := takesFront_sizes open_
  unfold sizedType
  obtain ⟨sizes, hsizes⟩ : ∃ sizes : Bool → Reader Unit, sizedType.sizes open_ = sizes := ⟨_, rfl⟩
  rw [hsizes] at hfront ⊢
  infer_instance

instance : TakesPiece (sizedType reserved open_) := by
  have hfront := takesFront_sizes open_
  have hpiece := takesPiece_sizes open_
  unfold sizedType
  obtain ⟨sizes, hsizes⟩ : ∃ sizes : Bool → Reader Unit, sizedType.sizes open_ = sizes := ⟨_, rfl⟩
  rw [hsizes] at hfront hpiece ⊢
  infer_instance

end SizedType

instance : TakesFront (enumerationBase g) := by unfold enumerationBase; infer_instance
instance : TakesFront (enumerationParts g) := by unfold enumerationParts; infer_instance

instance (reserved : List Text) (open_ : Bool) : TakesFront (plainType g reserved open_) := by
  unfold plainType
  infer_instance

instance (reserved : List Text) (open_ : Bool) : TakesPiece (plainType g reserved open_) := by
  unfold plainType
  infer_instance

instance : TakesFront (taggedType g) := by unfold taggedType; infer_instance
instance : TakesPiece (taggedType g) := by unfold taggedType; infer_instance

instance (reserved : List Text) (open_ : Bool) : TakesFront (baseType g reserved open_) := by
  unfold baseType
  infer_instance

/-- A base type takes a piece at least. -/
instance (reserved : List Text) (open_ : Bool) : TakesPiece (baseType g reserved open_) := by
  unfold baseType
  infer_instance

/-! ### Types without a name -/

instance : TakesFront assembly := by unfold assembly; infer_instance
instance : TakesFront (exceptions g) := by unfold exceptions; infer_instance

instance : TakesFront closingAttributes := by
  unfold closingAttributes
  dsimp only
  infer_instance


set_option synthInstance.maxSize 8192 in
instance : TakesFront (functionTail g) := by
  unfold functionTail
  infer_instance

instance (tail : Reader Unit) [TakesFront tail] (w : Int) (d : Declarator) :
    TakesFront (declaratorSuffix tail w d) := by
  unfold declaratorSuffix
  infer_instance

theorem takesFront_abstractSuffixes (n : Nat) (d : Declarator) :
    TakesFront (abstractSuffixes g n d) := by
  induction n generalizing d with
  | zero => exact inferInstanceAs (TakesFront (pure d))
  | succ n ih =>
    unfold abstractSuffixes
    infer_instance

theorem takesFront_abstractUpTo (n : Nat) : TakesFront (abstractUpTo g n) := by
  have hsuffixes := takesFront_abstractSuffixes g
  induction n with
  | zero => exact inferInstanceAs (TakesFront fail)
  | succ n ih =>
    unfold abstractUpTo
    infer_instance

instance : TakesFront (abstractDeclarator g) where
  suffix := (takesFront_abstractUpTo g _).suffix

instance : TakesFront (typeName g) := by unfold typeName; infer_instance

/-! ### Expressions -/

namespace Expression

instance : TakesFront number := by unfold number; infer_instance
instance : TakesFront character := by unfold character; infer_instance

instance : DropsFront dropTexts where
  suffix ps := by
    induction ps with
    | nil => exact List.suffix_rfl
    | cons p ps ih =>
      unfold dropTexts
      split
      · split
        · exact List.suffix_cons p ps
        · exact ih.trans (List.suffix_cons p ps)
      · split
        · exact ih.trans (List.suffix_cons p ps)
        · exact List.suffix_rfl

instance : TakesFront texts := by unfold texts; infer_instance
instance : TakesFront (named g) := by unfold named; infer_instance
instance : TakesFront (lambda g) := by unfold lambda; infer_instance
instance : TakesFront newDimensions := by unfold newDimensions; infer_instance

set_option synthInstance.maxSize 8192 in
instance : TakesFront (creation g) := by
  unfold creation
  infer_instance

instance : TakesFront (deletion g) := by unfold deletion; infer_instance
instance : TakesFront (choice g) := by unfold choice; infer_instance
instance : TakesFront (measure g) := by unfold measure; infer_instance
instance : TakesFront (primary g) := by unfold primary; infer_instance
instance : TakesFront (part g) := by unfold part; infer_instance
instance : TakesFront (suffix g) := by unfold suffix; infer_instance

theorem takesFront_suffixes (n : Nat) (f : Form) : TakesFront (suffixes g n f) := by
  induction n generalizing f with
  | zero => exact inferInstanceAs (TakesFront (pure f))
  | succ n ih =>
    unfold suffixes
    infer_instance

instance (angled : Bool) : TakesFront (operand g angled) := by
  unfold operand
  obtain ⟨behind, hbehind⟩ : ∃ behind : Form → Reader Form,
    (fun f ps => suffixes g ps.length f ps) = behind := ⟨_, rfl⟩
  have hfront : ∀ f, TakesFront (behind f) := fun f =>
    ⟨fun h => (takesFront_suffixes g _ f).suffix (hbehind ▸ h)⟩
  rw [hbehind]
  infer_instance

theorem jointAt_suffix {angled : Bool} {ps : List Piece} {found : Joint × List Piece}
    (h : jointAt angled ps = some found) : found.2 <:+ ps := by
  unfold jointAt at h
  split at h
  · cases h
  · next p rest =>
    split_ifs at h
    · cases h
      exact List.suffix_cons p rest
    · cases h
      exact List.suffix_cons p rest
    · obtain ⟨symbol, _, hsymbol⟩ := List.exists_of_findSome?_eq_some h
      obtain ⟨behind, hbehind, rfl⟩ := Option.map_eq_some_iff.mp hsymbol
      exact behindSymbol_suffix hbehind

instance (angled : Bool) : TakesFront (joint angled) where
  suffix h := by
    obtain ⟨found, hfound, rfl⟩ := List.mem_map.mp h
    exact jointAt_suffix (Option.mem_toList.mp hfound)

instance (angled : Bool) (f : Form) : TakesFront (continued g angled f) := by
  unfold continued
  refine @takesFront_bind _ _ _ _ _ fun j => ?_
  cases j <;> infer_instance

end Expression

instance (angled : Bool) : TakesFront (expression g angled) := by
  unfold expression
  infer_instance

instance : TakesFront (templateArgument g) := by unfold templateArgument; infer_instance
instance : TakesFront (templateArguments g) := by unfold templateArguments; infer_instance

instance : Phrases.TakeFront g.next where
  expression angled := inferInstanceAs (TakesFront (settle (Header.expression g angled)))
  operand angled := inferInstanceAs (TakesFront (settle (Expression.operand g angled)))
  specifier := inferInstanceAs (TakesFront (baseType g Keyword.typeNames false >>= fun _ => pure ()))
  typeName := inferInstanceAs (TakesFront (settle (Header.typeName g)))
  templateArguments := inferInstanceAs (TakesFront (settle (Header.templateArguments g)))

end Phrases

instance : Phrases.none.TakeFront where
  expression _ := inferInstanceAs (TakesFront fail)
  operand _ := inferInstanceAs (TakesFront fail)
  specifier := inferInstanceAs (TakesFront fail)
  typeName := inferInstanceAs (TakesFront fail)
  templateArguments := inferInstanceAs (TakesFront fail)

/-- **The readers of every layer take from the front.** -/
instance (depth : Nat) : (Phrases.upTo depth).TakeFront := by
  unfold Phrases.upTo
  induction depth with
  | zero => exact inferInstanceAs Phrases.none.TakeFront
  | succ n ih => exact inferInstanceAs (Phrases.TakeFront (Phrases.next _))

end Bindery.Header
