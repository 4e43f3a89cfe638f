import Bindery.Binding.Basic
import Bindery.Binding.Overload
import Bindery.Binding.ProcedureName

/-!
# Functions and callbacks

A function becomes a procedure in all its forms. A few types are known only by the place they
stand in: a number may be a set of flags or a character, and a pointer to numbers a text of wide
characters, which stays inside the module.
-/

namespace Bindery

/-- Names for which the module has a more convenient procedure elsewhere. -/
def textNames : List Text := ["str", "title"]

/-- The ending that tells a procedure on C strings from the convenient one. -/
def textMark : Char := 'C'

/-- The type of a plain number of 32 bits. -/
def wordType : Text := "uint32"

/-- The type of a set of flags. -/
def flagsType : Text := "BitMaskU32"

/-- The type of a character. -/
def runeType : Text := "RuneU32"

/-- The type of a text of wide characters. -/
def wideTextType : Text := "StringU32"

/-- Whether a type is a pointer to wide characters. -/
def isWideText (type : Text) : Bool := type == Text.ofString "ptr uint32"

/-- Whether a type is a C string. -/
def isCString (type : Text) : Bool := type == Text.ofString "cstring"

/-- The type of something with a given name in a function with a given C name. -/
def typeInPlace (cName name type : Text) : Text :=
  if isWideText type then wideTextType
  else if type = wordType then
    if name = ("style" : Text) then flagsType
    else if Text.occurs "Font" cName then runeType
    else type
  else type

/-- The parameters that a call has; a single nameless one of no type says that there are none. -/
def effectiveParams : List Param → List Param
  | [⟨type, none⟩] => if type = ("void" : Text) then [] else [⟨type, none⟩]
  | params => params

/-- The name of a parameter that has none, by its place. -/
def placeName (i : Nat) : Text := 'p' :: Text.ofNat (i + 1)

/-- The name of the parameter at a place. -/
def paramName (i : Nat) (p : Param) : Text :=
  match p.name.map identifierName with
  | some (c :: name) => c :: name
  | _ => placeName i

/-- The type of a parameter, before its place is looked at. -/
def paramType (handles : Handles) (p : Param) : Text := typeName handles (p.name.getD []) p.type

/-- The parameter at a place of a function with a given C name. -/
def bindParam (handles : Handles) (cName : Text) (i : Nat) (p : Param) : BoundParam :=
  let type := typeInPlace cName (paramName i p) (paramType handles p)
  ⟨paramName i p, type, Text.startsWith "const" p.type && isReference type⟩

/-- The type of a result: what is returned is never a reference. -/
def resultType (handles : Handles) (type : Text) : Text :=
  Text.replace referenceMark "ptr " (typeName handles [] type)

/-- Whether some parameter is a C string that the convenient procedure would take as a text. -/
def takesText (handles : Handles) (params : List Param) : Bool :=
  params.zipIdx.any fun (p, i) =>
    isCString (paramType handles p) && textNames.contains (paramName i p)

/-- The name of a procedure among the convenient ones. -/
def markText (name : Text) (returnsText takesText : Bool) : Text :=
  let name := if returnsText && textNames.contains name then name ++ [textMark] else name
  if takesText && !Text.endsWith [textMark] name then name ++ [textMark] else name

/-- A function as the head and the parameters of a procedure. -/
def procedureOf (handles : Handles) (s : Signature) :
    Except BindingFault (ProcedureHead × List BoundParam) := do
  let params := effectiveParams s.params
  let method ← methodName handles s.name params
  let call := (CallName.ofMethod method params.length).dropWide
  let result := resultType handles s.result
  let types := params.map (paramType handles)
  let shown := typeInPlace s.name call.name result
  return (
    { name := markText call.name (isCString result) (takesText handles params)
      result := if shown = ("void" : Text) then none else some shown
      exported := !(isWideText result || types.any isWideText)
      setter := call.setter
      symbol := s.name },
    params.zipIdx.map fun (p, i) => bindParam handles s.name i p)

/-- A function becomes a procedure in all its forms. -/
def bindFunction (handles : Handles) (s : Signature) : Except BindingFault Binding := do
  let (head, params) ← procedureOf handles s
  return .procedure (head.forms params)

/-- The name of a callback parameter is the declared one. -/
def callbackParam (handles : Handles) (i : Nat) (p : Param) : Text :=
  p.name.getD (placeName i) ++ ": " ++ typeName handles [] p.type

/-- A callback becomes a procedure type. -/
def bindCallback (handles : Handles) (s : Signature) : Except BindingFault Binding := do
  let name ← bareName s.name
  let params := s.params.zipIdx.map fun (p, i) => callbackParam handles i p
  return .plain ["type " ++ name ++ "* = proc(" ++ List.intercalate "; " params ++ "): " ++
    typeName handles [] s.result ++ " \x7b.cdecl.\x7d"]

end Bindery
