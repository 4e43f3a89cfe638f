import Bindery.Text.Basic

/-!
# Finding and replacing

`rewrite` reads a text from left to right; where its rule recognises something, what it
recognised is replaced, and reading goes on behind it, so that a replacement is never read again.
The rule sees the character before and the text from there on. Splitting at a separator is the
same walk, and joining the pieces with the separator gives the text back.
-/

namespace Bindery.Text

/-- A replacement, and how many characters after the first it replaces. -/
structure Change where
  /-- What is written instead. -/
  text : Text
  /-- The number of characters that belong to the match beyond its first. -/
  extra : Nat
  deriving DecidableEq, Repr

/-- What a rewriting rule does at a place: the character before it, the one at it and the rest. -/
abbrev Rule := Option Char → Char → Text → Option Change

/-- Apply a rule from left to right. `skip` characters still belong to the last match. -/
def rewriteFrom (rule : Rule) (last : Option Char) (skip : Nat) : Text → Text
  | [] => []
  | c :: t =>
    match skip with
    | n + 1 => rewriteFrom rule (some c) n t
    | 0 =>
      match rule last c t with
      | some change => change.text ++ rewriteFrom rule (some c) change.extra t
      | none => c :: rewriteFrom rule (some c) 0 t

/-- Apply a rule everywhere, from left to right. -/
def rewrite (rule : Rule) (t : Text) : Text := rewriteFrom rule none 0 t

/-- Recognise a fixed text. -/
def Rule.literal (old new : Text) : Rule := fun _ c t =>
  if startsWith old (c :: t) then some ⟨new, old.length - 1⟩ else none

/-- Replace every occurrence of `old`, which is not empty. -/
def replace (old new : Text) (t : Text) : Text := rewrite (Rule.literal old new) t

/-- The text around the first occurrence of `old`. -/
def cutAt? (old : Text) : Text → Option (Text × Text)
  | [] => (after? old []).map ([], ·)
  | c :: t =>
    match after? old (c :: t) with
    | some rest => some ([], rest)
    | none => (cutAt? old t).map fun (left, right) => (c :: left, right)

/-- The first occurrence lies between the two parts. -/
theorem eq_of_cutAt? {old t left right : Text} (h : cutAt? old t = some (left, right)) :
    t = left ++ old ++ right := by
  induction t generalizing left right with
  | nil =>
    simp only [cutAt?, Option.map_eq_some_iff, after?_eq_some_iff] at h
    obtain ⟨r, hr, he⟩ := h
    cases he
    simpa using hr
  | cons c t ih =>
    simp only [cutAt?] at h
    split at h
    · next rest hr =>
      cases h
      simpa using after?_eq_some_iff.mp hr
    · simp only [Option.map_eq_some_iff, Prod.exists] at h
      obtain ⟨l, r, hlr, he⟩ := h
      cases he
      simp [ih hlr]

/-- Whether `old` occurs in a text. -/
def occurs (old t : Text) : Bool := (cutAt? old t).isSome

/-- Replace the first occurrence of `old`. -/
def replaceFirst (old new : Text) (t : Text) : Text :=
  match cutAt? old t with
  | some (left, right) => left ++ new ++ right
  | none => t

/-- Put a character in front of the first piece. -/
def consPiece (c : Char) : List Text → List Text
  | [] => [[c]]
  | piece :: pieces => (c :: piece) :: pieces

/-- The pieces between occurrences of `separator`; `skip` characters still belong to one. -/
def piecesFrom (separator : Text) (skip : Nat) : Text → List Text
  | [] => [[]]
  | c :: t =>
    match skip with
    | n + 1 => piecesFrom separator n t
    | 0 =>
      if startsWith separator (c :: t) then [] :: piecesFrom separator (separator.length - 1) t
      else consPiece c (piecesFrom separator 0 t)

/-- The pieces of a text between occurrences of a separator, found from left to right. An empty
separator stands before, between and after all characters. -/
def pieces (separator t : Text) : List Text :=
  if separator.isEmpty then [] :: t.map ([·]) ++ [[]] else piecesFrom separator 0 t

end Bindery.Text
