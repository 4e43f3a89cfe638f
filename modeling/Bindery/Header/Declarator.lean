import Bindery.Declaration.Basic

/-!
# Declarators

A declarator says how a declared name is used to reach a value of the base type. It is a term:
pointers, arrays, functions and parentheses around a name, the outermost first. What a binding
needs of it is its shape: the name, the pointers on either side of the outermost function, the
outermost array size and the parameters of the outermost function.
-/

namespace Bindery.Header

/-- How a name is used to reach a value of the base type. -/
inductive Declarator where
  /-- The declared name, or none where there is none or it is not a plain word. -/
  | name (n : Option Text)
  /-- A pointer to the rest. -/
  | pointer (rest : Declarator)
  /-- An array of the rest, with the spelling of its size. -/
  | array (rest : Declarator) (size : Text)
  /-- A function that gives the rest, with its parameters. -/
  | function (rest : Declarator) (params : List Param)
  /-- Parentheses around the rest. -/
  | parens (rest : Declarator)
  deriving DecidableEq, Repr

/-- What a binding needs of a declarator. -/
structure Shape where
  /-- The declared name. -/
  name : Option Text := none
  /-- The pointers outside the outermost function, or all of them without a function. -/
  pointers : Nat := 0
  /-- The pointers inside the outermost function. -/
  innerPointers : Nat := 0
  /-- The size of the outermost array. -/
  array : Option Text := none
  /-- The parameters of the outermost function. -/
  params : Option (List Param) := none
  deriving DecidableEq, Repr

namespace Declarator

/-- A declarator that declares nothing under a plain name: a reference, an operator, a qualified
name or a name with an attribute of its own. -/
def nameless : Declarator := .name none

/-- The shape of a declarator. -/
def shape : Declarator → Shape
  | .name n => { name := n }
  | .pointer rest => { rest.shape with pointers := rest.shape.pointers + 1 }
  | .array rest size => { rest.shape with array := some size }
  | .function rest params =>
    { rest.shape with
      pointers := 0
      innerPointers := rest.shape.pointers + rest.shape.innerPointers
      params := some params }
  | .parens rest => rest.shape

/-- Parentheses do not change what is declared. -/
@[simp] theorem shape_parens (d : Declarator) : (parens d).shape = d.shape := rfl

/-- Whether the declarator is a function, seen from outside. -/
def isFunction : Declarator → Bool
  | .function .. => true
  | _ => false

end Declarator

/-- The place where a declarator stands, which decides what may be its name. -/
inductive Place where
  /-- A variable, a function or a parameter. -/
  | declaration
  /-- A field of a structure or union. -/
  | field
  /-- A type definition. -/
  | definition
  deriving DecidableEq, Repr

end Bindery.Header
