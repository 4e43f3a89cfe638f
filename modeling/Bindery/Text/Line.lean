import Bindery.Text.Basic

/-!
# Lines

A line ends at a line feed, and a carriage return before that feed belongs to the line end. What
follows the last line feed is a line unless it is empty.
-/

namespace Bindery.Text

/-- Without one carriage return at the end. -/
def dropReturn (t : Text) : Text :=
  match t.getLast? with
  | some '\r' => t.dropLast
  | _ => t

/-- The lines among the pieces between line feeds. -/
def linesOfPieces : List Text → List Text
  | [] => []
  | [last] => if last.isEmpty then [] else [last]
  | piece :: pieces => dropReturn piece :: linesOfPieces pieces

/-- The lines of a text, without their ends. -/
def lines (t : Text) : List Text := linesOfPieces (t.splitOn '\n')

/-- Lines written one under the other. -/
def unlines (ls : List Text) : Text := List.intercalate ['\n'] ls

@[simp] theorem unlines_nil : unlines [] = [] := rfl

@[simp] theorem unlines_singleton (l : Text) : unlines [l] = l := List.intercalate_singleton

@[simp] theorem unlines_cons_cons (l m : Text) (ls : List Text) :
    unlines (l :: m :: ls) = l ++ '\n' :: unlines (m :: ls) := by
  rw [unlines, List.intercalate_cons_cons, List.append_assoc]
  rfl

/-- The number of line feeds. -/
def lineFeeds (t : Text) : Nat := t.count '\n'

end Bindery.Text
