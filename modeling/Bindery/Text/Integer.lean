import Bindery.Text.Blank

/-!
# Integers in writing

An integer is written in decimal or, behind `0x`, in hexadecimal digits, with a sign in front. It
has to fit into 64 bits.
-/

namespace Bindery.Text

/-- The value of a digit in a base of at most sixteen. -/
def digit? (base : Nat) (c : Char) : Option Nat :=
  let value :=
    if c.isDigit then some (c.toNat - 48)
    else if 97 ≤ c.toNat ∧ c.toNat ≤ 102 then some (c.toNat - 87)
    else if 65 ≤ c.toNat ∧ c.toNat ≤ 70 then some (c.toNat - 55)
    else none
  value.filter (· < base)

theorem digit?_lt {base n : Nat} {c : Char} (h : digit? base c = some n) : n < base := by
  simp only [digit?, Option.filter_eq_some_iff, decide_eq_true_eq] at h
  exact h.2

/-- The number that some digits write; there is at least one. -/
def natural? (base : Nat) : Text → Option Nat
  | [] => none
  | t => (t.mapM (digit? base)).map fun ds => ds.foldl (fun n d => n * base + d) 0

/-- What is behind the integers that fit into 64 bits with a sign. -/
def signedLimit : Nat := Nat.pow 2 63

/-- Whether an integer fits into 64 bits with a sign. -/
def fitsSigned (n : Int) : Bool := -(signedLimit : Int) ≤ n && n < signedLimit

theorem fitsSigned_iff {n : Int} :
    fitsSigned n = true ↔ -(signedLimit : Int) ≤ n ∧ n < signedLimit := by
  rw [fitsSigned, Bool.and_eq_true, decide_eq_true_eq, decide_eq_true_eq]

/-- What a word of 64 bits with a sign holds of an integer. -/
def wrapSigned (n : Int) : Int := n.bmod (2 * signedLimit)

theorem fitsSigned_wrapSigned (n : Int) : fitsSigned (wrapSigned n) = true := by
  have hpos : 0 < 2 * signedLimit := by decide
  have hle := Int.le_bmod (x := n) hpos
  have hlt := Int.bmod_lt (x := n) hpos
  rw [fitsSigned_iff, wrapSigned]
  omega

/-- An integer that fits is held as it is. -/
theorem wrapSigned_of_fitsSigned {n : Int} (h : fitsSigned n = true) : wrapSigned n = n := by
  have hfits := fitsSigned_iff.mp h
  exact Int.bmod_eq_of_le (by omega) (by omega)

/-- The integer that some digits with at most one sign write. -/
def signed? (base : Nat) (t : Text) : Option Int :=
  let value : Option Int :=
    match t with
    | '-' :: digits => (natural? base digits).map fun n => -(n : Int)
    | '+' :: digits => (natural? base digits).map Int.ofNat
    | digits => (natural? base digits).map Int.ofNat
  value.filter fitsSigned

/-- What follows the mark of hexadecimal digits. -/
def hexadecimal? (t : Text) : Option Text := after? "0x" t <|> after? "0X" t

/-- The integer that some digits write, in hexadecimal behind their mark. -/
def magnitude? (t : Text) : Option Int :=
  match hexadecimal? t with
  | some digits => signed? 16 digits
  | none => signed? 10 t

/-- The value of an integer literal. A minus sign may stand apart in front of it. It turns the sign
of a word of 64 bits, in which the smallest integer has no counterpart and stays as it is. -/
def literal? (t : Text) : Option Int :=
  match trim t with
  | '-' :: rest => (magnitude? (trimStart rest)).map fun n => wrapSigned (-n)
  | t => magnitude? t

theorem fitsSigned_of_signed? {base : Nat} {t : Text} {n : Int} (h : signed? base t = some n) :
    fitsSigned n = true :=
  (Option.filter_eq_some_iff.mp h).2

theorem fitsSigned_of_magnitude? {t : Text} {n : Int} (h : magnitude? t = some n) :
    fitsSigned n = true := by
  unfold magnitude? at h
  split at h <;> exact fitsSigned_of_signed? h

/-- The value of a literal fits into 64 bits, whatever signs it has. -/
theorem fitsSigned_of_literal? {t : Text} {n : Int} (h : literal? t = some n) :
    fitsSigned n = true := by
  unfold literal? at h
  split at h
  · obtain ⟨m, _, rfl⟩ := Option.map_eq_some_iff.mp h
    exact fitsSigned_wrapSigned (-m)
  · exact fitsSigned_of_magnitude? h

example : literal? "--9223372036854775808" = some (-(signedLimit : Int)) := by
  with_unfolding_all decide

end Bindery.Text
