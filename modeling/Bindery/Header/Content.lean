import Bindery.Header.Declaring
import Bindery.Source.Diagnostic

/-!
# What the parts of a header declare

A part of a header is read as one of a few kinds of content. From its content alone follows which
declarations it gives, or why it gives none.
-/

namespace Bindery.Header

/-- Why a part of a header gives no declarations. -/
inductive Fault where
  /-- It is not well formed. -/
  | malformed
  /-- It defines a structure or a union that nothing can refer to. -/
  | unnamedRecord (isUnion : Bool)
  /-- It declares a function under no plain name. -/
  | unnamedFunction
  /-- It defines a type under no plain name. -/
  | unnamedType
  /-- It declares something that has no base type. -/
  | untyped
  deriving DecidableEq, Repr

namespace Fault

/-- The fault in words. -/
def message : Fault → Text
  | .malformed => "could not parse this part of the header"
  | .unnamedRecord isUnion =>
    (if isUnion then ("union" : Text) else "struct") ++ " without a name"
  | .unnamedFunction => "function declaration without a name"
  | .unnamedType => "typedef without a name"
  | .untyped => "declaration without a type"

/-- The report of a fault. -/
def diagnostic (fault : Fault) (span : Span) : Diagnostic :=
  ({ severity := .error, message := fault.message, label := "not lowered" } : Diagnostic).locate
    span

end Fault

/-- What a part of a header is, as far as bindings are concerned. -/
inductive Content where
  /-- Nothing that a binding is made from. -/
  | nothing
  /-- A type specifier on its own. -/
  | tagged (base : BaseType)
  /-- Declared names with their shapes; those with an initial value are left out. -/
  | declared (base : BaseType) (shapes : List Shape)
  /-- A type definition with the shape of its first name. -/
  | defined (base : BaseType) (shape : Shape)
  /-- A declaration without a base type. -/
  | untyped
  deriving DecidableEq, Repr

/-- A structure or union under a name; a structure without fields is a handle. -/
def recordDeclaration (isUnion : Bool) (name : Text) (fields : List Param) : Declaration :=
  if isUnion then .union ⟨name, fields⟩
  else if fields.isEmpty then .handle name
  else .struct ⟨name, fields⟩

/-- What a type specifier declares when it stands alone. -/
def BaseType.declarations : BaseType → Except Fault (List Declaration)
  | .plain _ => .ok []
  | .record isUnion (some tag) fields _ => .ok [recordDeclaration isUnion tag (fields.getD [])]
  | .record isUnion none _ _ => .error (.unnamedRecord isUnion)
  | .enumeration tag items _ => .ok [.enumeration tag items]

/-- What a declared name with a shape gives: a function, or nothing for variables and for pointers
to functions. -/
def functionOf (base : BaseType) (shape : Shape) : Except Fault (List Declaration) :=
  match shape.params with
  | none => .ok []
  | some params =>
    if shape.innerPointers > 0 then .ok []
    else
      match shape.name with
      | none => .error .unnamedFunction
      | some name => .ok [.function ⟨base.name ++ List.replicate shape.pointers '*', name, params⟩]

/-- What a type definition gives, from its base type and the shape of its first name. -/
def definitionOf (base : BaseType) (shape : Shape) : Except Fault (List Declaration) :=
  match shape.name with
  | none => .error .unnamedType
  | some name =>
    match shape.params with
    | some params =>
      if shape.innerPointers = 0 then .ok []
      else .ok [.callback ⟨base.name ++ List.replicate shape.pointers '*', name, params⟩]
    | none =>
      if shape.pointers > 0 || shape.array.isSome then .ok []
      else
        match base with
        | .plain spelling => .ok [.alias name spelling]
        | .record isUnion _ fields _ => .ok [recordDeclaration isUnion name (fields.getD [])]
        | .enumeration _ (some items) _ => .ok [.enumeration (some name) (some items)]
        | .enumeration _ none _ => .ok []

namespace Content

/-- The declarations that a content gives. One name that cannot be bound spoils them all. -/
def declarations : Content → Except Fault (List Declaration)
  | .nothing => .ok []
  | .tagged base => base.declarations
  | .declared base shapes => return (← shapes.mapM (functionOf base)).flatten
  | .defined base shape => definitionOf base shape
  | .untyped => .error .untyped

/-- Whether the semicolon at the end does not belong to what is declared. -/
def leavesSemicolon : Content → Bool
  | .tagged _ => true
  | _ => false

end Content

end Bindery.Header
