import Bindery.Text.Blank

/-!
# Lines of limited width

Words are filled into lines from left to right: a word stays on the line as long as the line with
it is at most so many bytes wide. A word that is wider than a line has a line of its own. Filling
neither loses nor moves a word.
-/

namespace Bindery.Text

/-- Put a word in front of the first line. -/
def leadLine (word : Text) : List (List Text) → List (List Text)
  | [] => [[word]]
  | line :: lines => (word :: line) :: lines

@[simp] theorem flatten_leadLine (word : Text) (lines : List (List Text)) :
    (leadLine word lines).flatten = word :: lines.flatten := by
  cases lines <;> simp [leadLine]

/-- Fill words into lines behind a line of which so many bytes are used; a new line begins with
`indent` bytes. The first line of the result goes on with that line. -/
def fillBehind (width indent used : Nat) : List Text → List (List Text)
  | [] => [[]]
  | word :: words =>
    if used + 1 + byteSize word ≤ width then
      leadLine word (fillBehind width indent (used + 1 + byteSize word) words)
    else [] :: leadLine word (fillBehind width indent (indent + byteSize word) words)

/-- The words of the lines are the words that were filled in. -/
theorem flatten_fillBehind (width indent used : Nat) (words : List Text) :
    (fillBehind width indent used words).flatten = words := by
  induction words generalizing used with
  | nil => rfl
  | cons word words ih =>
    unfold fillBehind
    split <;> simp [ih]

/-- Fill words into lines behind an indentation of so many bytes. -/
def fill (width indent : Nat) : List Text → List (List Text)
  | [] => []
  | word :: words => leadLine word (fillBehind width indent (indent + byteSize word) words)

theorem flatten_fill (width indent : Nat) (words : List Text) :
    (fill width indent words).flatten = words := by
  cases words <;> simp [fill, flatten_fillBehind]

/-- Words on one line behind an indentation. -/
def wordLine (indent : Text) (words : List Text) : Text := indent ++ List.intercalate [' '] words

/-- The words of a text in lines of limited width behind an indentation. -/
def wrap (width : Nat) (indent t : Text) : List Text :=
  (fill width (byteSize indent) (words t)).map (wordLine indent)

end Bindery.Text
