import Bindery.Text.Line

/-!
# Comments

A comment is a text of which every line is marked. The comment of an empty text has no lines, so
it is left out altogether.
-/

namespace Bindery

/-- What stands before every line of a comment. -/
def commentMark : Text := "## "

/-- The lines of a text as a comment, behind some spaces. -/
def comment (indent : Nat) (t : Text) : Text :=
  Text.unlines ((Text.lines t).map fun line => List.replicate indent ' ' ++ commentMark ++ line)

/-- The spaces before the comment on a declaration. -/
def commentIndent : Nat := 2

/-- The comment on a declaration with some documentation; none where that says nothing. -/
def declarationComment? (documentation : Option Text) : Option Text :=
  (documentation.map (comment commentIndent)).filter (!·.isEmpty)

end Bindery
