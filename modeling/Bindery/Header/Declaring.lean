import Bindery.Header.Expression

/-!
# Declarators, specifiers and parameters

A declaration begins with its base type and modifiers, and its declarators say what is made of
that type. A field or parameter type is written as the base type, with `const` in front if it
occurs beside the base type, a star for every pointer of the declarator and the outermost array
size behind.
-/

namespace Bindery.Header

open Reader

namespace Place

/-- Words with a meaning where a declared name stands. -/
def reserved : Place → List Text
  | .declaration => Keyword.declarators
  | .field => Keyword.fields
  | .definition => Keyword.definitions

/-- The reading of parentheses as a declarator. -/
def reading : Place → Readings → Option (Weighted Declarator)
  | .declaration => (·.declarator)
  | .field => (·.field)
  | .definition => (·.definition)

/-- What may follow parameters; nothing in a type definition. -/
def functionTail (g : Phrases) : Place → Reader Unit
  | .definition => pure ()
  | _ => Header.functionTail g

/-- What parameters behind a declarator weigh. -/
def functionWeight : Place → Int
  | .definition => 0
  | _ => 1

end Place

/-- Names between brackets, which share the parts of one value. -/
def sharedNames : Reader Unit := do
  groupOf '[' fun inside => !inside.isEmpty && (list false (name []) inside).isSome
  weigh (-1)

/-- The name of a declarator. -/
def declaredName (g : Phrases) (place : Place) : Reader Declarator :=
  match place with
  | .declaration =>
    (do
      let n ← qualifiedName g place.reserved do
        announcedTemplate g <|> operatorName <|> destructorName <|> memberPointer
      return .name n)
    <|> do
      operatorName <|> destructorName <|> sharedNames
      return .nameless
  | .field =>
    (do
      let n ← name place.reserved
      let arguments ← optional g.templateArguments
      notAScope
      return .name (if arguments.isSome then none else some n))
    <|> do
      operatorName
      return .nameless
  | .definition => do
    let n ← name place.reserved
    notAScope
    return .name (some n)

/-- An attribute behind a declarator, which then declares nothing under a plain name. -/
def attributed : Reader Declarator := do
  check fun ps => (dropBracketAttributes? ps).isSome
  skip (dropAll dropBracketAttributes?)
  return .nameless

/-- Any number of suffixes and attributes, at most so many. -/
def declaratorSuffixes (g : Phrases) (place : Place) : Nat → Declarator → Reader Declarator
  | 0, d => pure d
  | n + 1, d =>
    ((declaratorSuffix (place.functionTail g) place.functionWeight d <|> attributed) >>=
        declaratorSuffixes g place n)
      <|> pure d

/-- A declarator with at most so many parts. -/
def declaratorUpTo (g : Phrases) (place : Place) : Nat → Reader Declarator
  | 0 => fail
  | n + 1 =>
    (do
      let _ ← optional do
        word ["__based"]
        group '(' (·.arguments)
      pointerMark
      weigh 1
      let d ← declaratorUpTo g place n
      return .pointer d)
    <|> (do
      referenceMark
      weigh 1
      let _ ← declaratorUpTo g place n
      return .nameless)
    <|> (do
      let d ← declaredName g place <|> (do let d ← group '(' place.reading; return .parens d)
      declaratorSuffixes g place n d)

/-- A declarator at a place. -/
def declarator (g : Phrases) (place : Place) : Reader Declarator := settle fun ps =>
  declaratorUpTo g place (ps.length + 1) ps

/-- What stands before the declarators of a declaration. -/
structure Specifiers where
  /-- The base type. -/
  base : BaseType
  /-- Whether the base type is constant. -/
  constant : Bool
  deriving DecidableEq, Repr

/-- The base type of a declaration with its modifiers. -/
def specifiers (g : Phrases) (reserved : List Text) : Reader Specifiers := do
  let before ← modifiers
  let base ← baseType g reserved false
  let behind ← modifiers
  return ⟨base, (before ++ behind).any id⟩

/-- The type that a declarator of some shape makes of a base type. -/
def typeOf (s : Specifiers) (shape : Shape) : Text :=
  (if s.constant then ("const " : Text) else []) ++ s.base.name ++
    List.replicate (shape.pointers + shape.innerPointers) '*' ++
    match shape.array with
    | some size => (" [" : Text) ++ size ++ [']']
    | none => []

/-- A field or parameter from its specifiers and the shape of its declarator. -/
def paramOf (s : Specifiers) (shape : Shape) : Param := ⟨typeOf s shape, shape.name⟩

/-- One parameter. The object of a method, and parameters that need not be given or stand for any
number, are left out. -/
def parameter (g : Phrases) (angled : Bool) : Reader (Option Param) :=
  (do symbol "..."; return none) <|> do
    let object ← optional (word ["this"])
    let s ← specifiers g Keyword.parameters
    (do
      let d ← declarator g .declaration <|> abstractDeclarator g <|> pure .nameless
      attributes
      return if object.isSome then none else some (paramOf s d.shape))
    <|> (do
      let _ ← optional (declarator g .declaration <|> (do
        referenceMark
        let _ ← optional (abstractDeclarator g)
        return .nameless))
      mark '='
      let _ ← g.expression angled
      return none)
    <|> (do
      referenceMark <|> pure ()
      symbol "..."
      let _ ← optional (name [])
      return none)

/-- A parameter list that says there are no parameters. -/
def isVoidOnly : List Param → Bool
  | [p] => p.type == Text.ofString "void" && p.name.isNone
  | _ => false

/-- Read parameters between parentheses. -/
def parameters? (g : Phrases) (inside : List Piece) : Option (Weighted (List Param)) :=
  (list false (settle (parameter g false)) inside).map fun w =>
    let params := w.value.filterMap id
    ⟨if isVoidOnly params then [] else params, w.weight⟩

/-- One declarator of a declaration; none where an initial value follows. -/
def initDeclarator (g : Phrases) : Reader (Option Declarator) := settle do
  let d ← declarator g .declaration
  (do
    let _ ← optional assembly
    return some d)
  <|> (do
    (do mark '='; (do let _ ← g.expression false) <|> group '{' (·.initializer))
      <|> group '(' (·.values) <|> group '{' (·.initializer)
    return none)

/-- Read a declarator between parentheses. A comment or a word before it hides its name. -/
def enclosed? (r : Reader Declarator) (w : Int) (inside : List Piece) :
    Option (Weighted Declarator) :=
  let hidden := inside.head?.any fun p => p.first.followsComment || p.isOneOf Keyword.conventions
  let r : Reader Declarator := do
    let _ ← optional (word Keyword.conventions)
    weigh w
    let d ← r
    return if hidden then .nameless else d
  whole r inside

end Bindery.Header
