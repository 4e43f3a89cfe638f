import Bindery.Text.Basic

/-!
# Blanks and words between them

A blank is a character with the property White_Space. Trimming removes blanks at the ends, and
the words of a text are its maximal stretches without a blank.
-/

namespace Bindery.Text

/-- The characters with the property White_Space. -/
def isBlank (c : Char) : Bool :=
  let n := c.toNat
  (9 ≤ n && n ≤ 13) || n == 0x20 || n == 0x85 || n == 0xA0 || n == 0x1680 ||
    (0x2000 ≤ n && n ≤ 0x200A) || n == 0x2028 || n == 0x2029 || n == 0x202F || n == 0x205F ||
    n == 0x3000

/-- The space, the tab and the line ends are blank. -/
theorem isBlank_of_isWhitespace {c : Char} (h : c.isWhitespace = true) : isBlank c = true := by
  simp only [Char.isWhitespace, Bool.or_eq_true, decide_eq_true_eq] at h
  rcases h with ((rfl | rfl) | rfl) | rfl <;> decide

/-- Without the blanks at the front. -/
def trimStart (t : Text) : Text := t.dropWhile isBlank

/-- Without the blanks at the end. -/
def trimEnd (t : Text) : Text := (t.reverse.dropWhile isBlank).reverse

/-- Without the blanks at both ends. -/
def trim (t : Text) : Text := trimEnd (trimStart t)

/-- The maximal stretches without a blank, in order. -/
def words (t : Text) : List Text := (t.splitOnP isBlank).filter (!·.isEmpty)

/-- Every run of blanks becomes one space, and none is left at the ends. -/
def normalize (t : Text) : Text := List.intercalate [' '] (words t)

end Bindery.Text
