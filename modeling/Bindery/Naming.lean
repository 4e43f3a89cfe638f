import Bindery.Text.Case
import Bindery.Text.Search

/-!
# Names

Every name of the bound library begins with the same two letters, which a binding drops. Names
of procedures and parameters are then adapted: words that the target language keeps for itself
are replaced, and the first letter becomes small.
-/

namespace Bindery

/-- The beginning of every name of the bound library. -/
def libraryLead : Text := "sf"

/-- Names of the library that lack its beginning, with what they stand for without it. -/
def unmarkedNames : List (Text × Text) := [("getLineSpacing", "Text_getLineSpacing")]

/-- A library name without the library's beginning; none for a name that is not the library's. -/
def bareName? (name : Text) : Option Text :=
  match unmarkedNames.lookup name with
  | some bare => some bare
  | none => Text.after? libraryLead name

/-- Identifiers that mean something else in the target language, and their replacements. -/
def keywordNames : List (Text × Text) :=
  [("object", "obj"), ("type", "kind"), ("bind", "bindGL")]

/-- A C identifier as the name of a procedure or a parameter. -/
def identifierName (name : Text) : Text :=
  let name := (keywordNames.lookup name).getD name
  Text.lowerFirst (Text.replace "string" "str" (Text.replace "String" "Str" name))

end Bindery
