import Bindery.Text.Basic
import Bindery.Text.Table.Word

/-!
# Word characters

Letters, marks, digits, connectors and joiners make words; a word boundary lies where exactly
one of two neighbours is such a character. The ASCII part is decided without the table.
-/

namespace Bindery.Text

/-- Whether a code point lies in one of some closed intervals. -/
def inIntervals (table : Array (Nat × Nat)) (n : Nat) : Bool :=
  table.any fun (first, last) => first ≤ n && n ≤ last

/-- An ASCII letter, digit or underscore. -/
def isAsciiWord (c : Char) : Bool := c.isAlphanum || c == '_'

/-- A character that belongs to a word. -/
def isWord (c : Char) : Bool :=
  if c.toNat < 128 then isAsciiWord c else inIntervals wordIntervals c.toNat

theorem isWord_of_lt {c : Char} (h : c.toNat < 128) : isWord c = isAsciiWord c := by
  simp [isWord, h]

/-- Whether the word, if any, ends before `t`. -/
def endsWordBefore : Text → Bool
  | [] => true
  | c :: _ => !isWord c

end Bindery.Text
