import Bindery.Binding.Procedure
import Bindery.Text.Case

/-!
# Records, handles and aliases

Structures and unions become objects that are passed by copy, or a union becomes a reference to a
definition written elsewhere. A structure without fields is a handle, and a second name of a
library type stays one.
-/

namespace Bindery

/-- How unions are bound. -/
inductive UnionMode where
  /-- As an object whose fields share their place. -/
  | object
  /-- By a definition written elsewhere. -/
  | included
  deriving DecidableEq, Repr

/-- The record that is known by the name of another one. -/
def sharedRecord : Text := "sfVector2u"

/-- The type of fields that are left out. -/
def tagType : Text := "sfEventType"

/-- The type of a field, by its name. -/
def fieldType (handles : Handles) (name type : Text) : Text :=
  let type := typeName handles [] type
  if type = wordType then
    if name = ("unicode" : Text) then runeType
    else if name = ("attributeFlags" : Text) then flagsType
    else type
  else type

/-- A field of a record with a given name. -/
def fieldLine (handles : Handles) (record : Text) (p : Param) : Except BindingFault Text :=
  match p.name with
  | some name => .ok ("  " ++ name ++ "*: " ++ fieldType handles name p.type)
  | none => .error (.unnamedField record)

/-- A record becomes an object, which has all its fields but the tags. -/
def bindObject (handles : Handles) (pragmas : Text) (r : Record) : Except BindingFault Binding := do
  let fields ← (r.fields.filter (·.type ≠ tagType)).mapM (fieldLine handles r.name)
  return .object
    ("type " ++ typeName handles [] r.name ++ "* \x7b." ++ pragmas ++ ".\x7d = object") fields

/-- A structure becomes an object. -/
def bindStruct (handles : Handles) (r : Record) : Except BindingFault Binding :=
  if r.name = sharedRecord then .ok (.plain []) else bindObject handles "bycopy" r

/-- A union becomes an object or a reference to its definition. -/
def bindUnion (handles : Handles) (mode : UnionMode) (r : Record) : Except BindingFault Binding :=
  if r.name = sharedRecord then .ok (.plain [])
  else
    match mode with
    | .object => bindObject handles "union, bycopy" r
    | .included => do return .plain ["include union_" ++ Text.lower (← bareName r.name)]

/-- A handle is a pointer to an object that is not shown. -/
def bindHandle (name : Text) : Except BindingFault Binding := do
  return .object ("type " ++ (← bareName name) ++ "* = ptr object") []

/-- A second name of a library type; one of any other type is not needed. -/
def bindAlias (name target : Text) : Binding :=
  match bareName? name, bareName? target with
  | some name, some target => .plain ["type " ++ name ++ "* = " ++ target]
  | _, _ => .plain []

end Bindery
