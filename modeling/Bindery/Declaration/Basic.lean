import Bindery.Source.Span
import Bindery.Text.Basic

/-!
# Declarations of a C header

The declarations that bindings are made from, with their types as C spells them. An enumeration
without a member list is a marker: it names a piece of documentation or a module, and declares
nothing.
-/

namespace Bindery

/-- A parameter of a function or a field of a record. -/
structure Param where
  /-- The C type, with the declared name taken out. -/
  type : Text
  /-- The declared name, if there is one. -/
  name : Option Text
  deriving DecidableEq, Repr

/-- A function: what it returns, its name and what it takes. -/
structure Signature where
  /-- The C type of the result, without qualifiers. -/
  result : Text
  /-- The C name. -/
  name : Text
  /-- The parameters in order. -/
  params : List Param
  deriving DecidableEq, Repr

/-- A named constant of an enumeration. -/
structure Enumerator where
  /-- The C name. -/
  name : Text
  /-- The expression after the equals sign, if there is one. -/
  value : Option Text
  deriving DecidableEq, Repr

/-- A structure or a union. -/
structure Record where
  /-- The C name. -/
  name : Text
  /-- The fields in order. -/
  fields : List Param
  deriving DecidableEq, Repr

/-- One declaration of a header. -/
inductive Declaration where
  /-- A function prototype. -/
  | function (signature : Signature)
  /-- A named pointer-to-function type. -/
  | callback (signature : Signature)
  /-- A second name for a type. -/
  | alias (name target : Text)
  /-- An enumeration; without a member list it is a marker. -/
  | enumeration (name : Option Text) (items : Option (List Enumerator))
  /-- A structure with fields. -/
  | struct (record : Record)
  /-- A union. -/
  | union (record : Record)
  /-- A structure whose fields are not shown. -/
  | handle (name : Text)
  deriving DecidableEq, Repr

/-- The C name of a declaration, if it has one. -/
def Declaration.name? : Declaration → Option Text
  | .function s | .callback s => some s.name
  | .alias name _ | .handle name => some name
  | .enumeration name _ => name
  | .struct r | .union r => some r.name

/-- A declaration and the place it was read from. -/
structure Located where
  /-- What is declared. -/
  declaration : Declaration
  /-- Where it stands; empty for a declaration that was not read from a source. -/
  span : Span := {}
  deriving DecidableEq, Repr

/-- The name under which reports speak of something without a name. -/
def anonymous : Text := "<anonymous>"

end Bindery
