import Bindery.Text.Word
import Bindery.Text.Table.Upper
import Bindery.Text.Table.Lower
import Bindery.Text.Table.Cased

/-!
# Capitals and small letters

The small form of a character is one character, except for the dotted capital I, which keeps its
dot as a combining mark. In a whole text the capital sigma has two small forms: the final one
after a letter with case and before none, looking through accents and apostrophes on both sides.
-/

namespace Bindery.Text

/-- A capital letter. -/
def isUpper (c : Char) : Bool :=
  if c.toNat < 128 then c.isUpper
  else upperIntervals.any fun (first, last, step) =>
    first ≤ c.toNat && c.toNat ≤ last && (c.toNat - first) % step == 0

/-- The small form of one character, without regard to its neighbours. -/
def lowerChar (c : Char) : Text :=
  if c.toNat < 128 then [c.toLower]
  else if c.toNat = 0x130 then ['i', Char.ofNat 0x307]
  else
    match lowerShifts.find? fun (first, last, step, _) =>
        first ≤ c.toNat && c.toNat ≤ last && (c.toNat - first) % step == 0 with
    | some (_, _, _, shift) => [Char.ofNat (c.toNat + shift).toNat]
    | none => [c]

theorem lowerChar_of_lt {c : Char} (h : c.toNat < 128) : lowerChar c = [c.toLower] := by
  simp [lowerChar, h]

/-- The first character in its small form, and the rest as it is. -/
def lowerFirst : Text → Text
  | [] => []
  | c :: t => lowerChar c ++ t

/-- A letter that has, or is, a capital or small form. -/
def isCased (c : Char) : Bool :=
  if c.toNat < 128 then c.isAlpha else inIntervals casedIntervals c.toNat

/-- A character that is looked through in the search for a letter with case. -/
def isCaseIgnorable (c : Char) : Bool :=
  if c.toNat < 128 then [39, 46, 58, 94, 96].contains c.toNat
  else inIntervals caseIgnorableIntervals c.toNat

/-- Whether the first character that counts is a letter with case. -/
def meetsCased (t : Text) : Bool :=
  match t.dropWhile isCaseIgnorable with
  | [] => false
  | c :: _ => isCased c

/-- The small form of a text whose preceding characters are `seen`, nearest first. -/
def lowerAfter (seen : Text) : Text → Text
  | [] => []
  | c :: t =>
    (if c.toNat = 0x3A3 then
        [if meetsCased seen && !meetsCased t then Char.ofNat 0x3C2 else Char.ofNat 0x3C3]
      else lowerChar c) ++ lowerAfter (c :: seen) t

/-- The small form of a text. -/
def lower (t : Text) : Text := lowerAfter [] t

end Bindery.Text
