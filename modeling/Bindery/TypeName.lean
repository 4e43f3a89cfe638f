import Bindery.Naming
import Bindery.Text.Blank

/-!
# Type names

A C type spelling is taken apart into an array size, a base name and a number of pointers, and
written in the target language. A pointer to a handle is the handle itself; a pointer to any
other library type is a reference, unless the name it goes by is a plural, for then it points to
an array. Other pointers stay pointers.
-/

namespace Bindery

/-- The names of the handle types declared so far, without the library's beginning. -/
abbrev Handles := List Text

/-- A C type spelling taken apart. -/
structure CType where
  /-- The base name. -/
  base : Text
  /-- The number of pointers. -/
  pointers : Nat
  /-- The array size as it is spelled. -/
  size : Option Text
  deriving DecidableEq, Repr

/-- A character that an array size is spelled with. -/
def isSizePart (c : Char) : Bool := c.isDigit || c == '*' || c == ' '

/-- Take a size in brackets off the end: what precedes it, on one line, and the size. -/
def takeSize? (t : Text) : Option (Text × Text) :=
  match t.reverse with
  | ']' :: rest =>
    match rest.dropWhile isSizePart with
    | '[' :: inner =>
      let size := rest.takeWhile isSizePart
      if size.isEmpty || inner.isEmpty || inner.contains '\n' then none
      else some (inner.reverse, Text.trim size.reverse)
    | _ => none
  | _ => none

/-- Recognise the word `const`. -/
def constRule : Text.Rule := fun last c t =>
  if (last.map (!Text.isWord ·)).getD true then
    match Text.after? "const" (c :: t) with
    | some rest => if Text.endsWordBefore rest then some ⟨[], 4⟩ else none
    | none => none
  else none

/-- A library integer type of fixed width is known by its name alone, in small letters. -/
def widthName (t : Text) : Text :=
  match Text.after? libraryLead t with
  | some bare =>
    if (Text.occurs "Int" t || Text.occurs "Uint" t) && !Text.occurs "Rect" t then
      Text.lower bare
    else t
  | none => t

/-- A star, or a blank between stars. -/
def isPointerPart (c : Char) : Bool := c == '*' || Text.isBlank c

/-- Base names with a fixed name in the target language. -/
def baseNames : List (Text × Text) :=
  [("int", "cint"), ("size_t", "int"), ("unsigned int", "cint"), ("float", "cfloat"),
    ("sfBool", "BoolInt"), ("sfVector2u", "sfVector2i")]

/-- Take a C type spelling apart. -/
def CType.ofText (t : Text) : CType :=
  let (spelling, size) :=
    match takeSize? t with
    | some (inner, size) => (inner, some size)
    | none => (t, none)
  let name := widthName (Text.trim (Text.rewrite constRule spelling))
  let stars := name.reverse.takeWhile isPointerPart
  let base := Text.trim (name.reverse.dropWhile isPointerPart).reverse
  ⟨(baseNames.lookup base).getD base, stars.count '*', size⟩

/-- The last two characters. -/
def lastTwo (t : Text) : Text := t.drop (t.length - 2)

/-- Whether a name is a plural that does not just end like the type. -/
def isOtherPlural (name type : Text) : Bool :=
  Text.endsWith "s" name && lastTwo name != lastTwo type

/-- What stands before a type that is passed by reference. -/
def referenceMark : Text := "var "

/-- A type of the target language. -/
structure TargetType where
  /-- The number of pointers in front. -/
  pointers : Nat
  /-- Whether the name is passed by reference. -/
  reference : Bool
  /-- The name, without the library's beginning. -/
  name : Text
  /-- The array size as it is spelled. -/
  size : Option Text
  deriving DecidableEq, Repr

namespace TargetType

/-- A pointer to nothing in particular has a name of its own. -/
def ofVoid (t : CType) : CType :=
  if t.pointers > 0 && t.base == Text.ofString "void" then
    { t with base := "pointer", pointers := t.pointers - 1 }
  else t

/-- The target type of a C type that goes by the name `hint`. -/
def ofCType (handles : Handles) (hint : Text) (t : CType) : TargetType :=
  let t := ofVoid t
  let bare := (bareName? t.base).getD t.base
  if t.pointers > 0 && Text.startsWith libraryLead t.base then
    if handles.contains bare then ⟨t.pointers - 1, false, bare, t.size⟩
    else if isOtherPlural hint t.base then ⟨t.pointers, false, bare, t.size⟩
    else ⟨t.pointers - 1, true, bare, t.size⟩
  else ⟨t.pointers, false, bare, t.size⟩

/-- The element type in writing; a pointer to a character is a C string. -/
def renderElement (t : TargetType) : Text :=
  let written :=
    (List.replicate t.pointers ("ptr " : Text)).flatten ++
      (if t.reference then referenceMark else []) ++ t.name
  if written = "ptr char" then "cstring" else written

/-- The type in writing. -/
def render (t : TargetType) : Text :=
  match t.size with
  | some size => "array[" ++ size ++ ", " ++ t.renderElement ++ [']']
  | none => t.renderElement

end TargetType

/-- A C type spelling in the target language, for something that goes by the name `hint`. -/
def typeName (handles : Handles) (hint spelling : Text) : Text :=
  (TargetType.ofCType handles hint (CType.ofText spelling)).render

/-- Whether a type is passed by reference. -/
def isReference (type : Text) : Bool := Text.startsWith referenceMark type

/-- A type without the mark of a reference. -/
def dereference (type : Text) : Text := (Text.after? referenceMark type).getD type

end Bindery
