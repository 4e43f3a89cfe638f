/-!
# Text

Text is a list of characters. Sizes that other programs measure in bytes are a function on it:
`byteSize` adds up the UTF-8 widths of the characters, and it is additive over concatenation.
The two cutting operations, `after?` and `before?`, remove a known beginning or ending and say
so exactly when the text has it.
-/

namespace Bindery

/-- A text is the list of its characters, so that every rule on it is a recursion on the data. -/
abbrev Text := List Char

namespace Text

/-- The characters of a literal. -/
@[irreducible] def ofString (s : String) : Text := s.toList

theorem ofString_eq (s : String) : ofString s = s.toList := by
  unfold ofString
  rfl

instance : Coe String Text := ⟨ofString⟩

/-- The number of bytes of the UTF-8 form. -/
def byteSize : Text → Nat
  | [] => 0
  | c :: t => c.utf8Size + byteSize t

@[simp] theorem byteSize_nil : byteSize [] = 0 := rfl

@[simp] theorem byteSize_cons (c : Char) (t : Text) :
    byteSize (c :: t) = c.utf8Size + byteSize t := rfl

@[simp] theorem byteSize_append (s t : Text) : byteSize (s ++ t) = byteSize s + byteSize t := by
  induction s with
  | nil => simp
  | cons c s ih =>
    rw [List.cons_append, byteSize_cons, byteSize_cons, ih, Nat.add_assoc]

/-- What follows `lead` at the front of a text that begins with it. -/
def after? : Text → Text → Option Text
  | [], t => some t
  | _ :: _, [] => none
  | c :: lead, d :: t => if c = d then after? lead t else none

/-- A text has a beginning exactly when it is that beginning followed by the rest. -/
theorem after?_eq_some_iff {lead t rest : Text} : after? lead t = some rest ↔ t = lead ++ rest := by
  induction lead generalizing t with
  | nil => simp [after?]
  | cons c lead ih =>
    cases t with
    | nil => simp [after?]
    | cons d t =>
      by_cases h : c = d
      · subst h
        simp [after?, ih]
      · simp [after?, h, Ne.symm h]

@[simp] theorem after?_append (lead rest : Text) : after? lead (lead ++ rest) = some rest :=
  after?_eq_some_iff.mpr rfl

/-- What precedes `tail` at the end of a text that ends with it. -/
def before? (tail t : Text) : Option Text := (after? tail.reverse t.reverse).map List.reverse

/-- A text has an ending exactly when it is the rest followed by that ending. -/
theorem before?_eq_some_iff {tail t rest : Text} :
    before? tail t = some rest ↔ t = rest ++ tail := by
  simp only [before?, Option.map_eq_some_iff, after?_eq_some_iff]
  constructor
  · rintro ⟨r, hr, rfl⟩
    have := congrArg List.reverse hr
    simpa using this
  · rintro rfl
    exact ⟨rest.reverse, by simp, by simp⟩

/-- Whether a text begins with `lead`. -/
def startsWith (lead t : Text) : Bool := (after? lead t).isSome

/-- Whether a text ends with `tail`. -/
def endsWith (tail t : Text) : Bool := (before? tail t).isSome

theorem startsWith_iff {lead t : Text} : startsWith lead t = true ↔ ∃ rest, t = lead ++ rest := by
  simp [startsWith, Option.isSome_iff_exists, after?_eq_some_iff]

theorem endsWith_iff {tail t : Text} : endsWith tail t = true ↔ ∃ rest, t = rest ++ tail := by
  simp [endsWith, Option.isSome_iff_exists, before?_eq_some_iff]

/-- The decimal digits of a number. -/
def ofNat (n : Nat) : Text := Nat.toDigits 10 n

end Text

end Bindery
