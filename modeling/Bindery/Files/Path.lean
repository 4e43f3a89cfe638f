import Bindery.Text.Basic

/-!
# Paths

A path is a text of parts between slashes. Paths are joined and cut as they are written: nothing
is looked up, and no part is resolved against another.
-/

namespace Bindery.Path

/-- Whether a path starts at the root. -/
def isAbsolute (path : Text) : Bool := Text.startsWith ['/'] path

/-- A path seen from a directory. An absolute path does not depend on where it is seen from. -/
def join (base path : Text) : Text :=
  if isAbsolute path then path
  else if base.isEmpty || Text.endsWith ['/'] base then base ++ path
  else base ++ ['/'] ++ path

/-- An absolute path is the same from everywhere. -/
theorem join_of_isAbsolute {path : Text} (h : isAbsolute path = true) (base : Text) :
    join base path = path := by
  simp [join, h]

/-- From nowhere in particular a path is as it is written. -/
theorem join_nil (path : Text) : join [] path = path := by
  simp [join]

/-- Whether a part says nothing. -/
def isIdle (part : Text) : Bool := part.isEmpty || part == ['.']

/-- The beginning of a path that is not made of parts: the root, or the dot at the front. -/
def lead (path : Text) : Text :=
  match path with
  | '/' :: _ => ['/']
  | ['.'] => ['.']
  | '.' :: '/' :: _ => ['.']
  | _ => []

/-- The path without its last part; none for the root and for the empty path. -/
def parent? (path : Text) : Option Text :=
  let front := lead path
  let parts := ((path.drop front.length).splitOn '/').reverse
  match parts.dropWhile isIdle with
  | [] => if front = ['.'] then some [] else none
  | _ :: before =>
    some (front ++ List.intercalate ['/'] (before.dropWhile isIdle).reverse)

end Bindery.Path
