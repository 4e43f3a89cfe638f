import Bindery.Header.Content

/-!
# Declarations and definitions

Declarations of functions and variables, type definitions, and the definitions of functions in all
their forms. A function with a body declares nothing that a binding is made from.
-/

namespace Bindery.Header

open Reader

/-- One expression, or several with commas between them. -/
def commaExpression (g : Phrases) : Reader Unit := do
  let _ ← commas (g.expression false)

/-- A declaration of functions and variables. -/
def declaration (g : Phrases) : Reader Content := do
  let s ← specifiers g Keyword.statements
  let ds ← commas (initDeclarator g)
  mark ';'
  return .declared s.base (ds.filterMap fun d => d.map Declarator.shape)

/-- A type specifier on its own. -/
def emptyDeclaration (g : Phrases) : Reader Content := do
  let base ← baseType g Keyword.statements false
  mark ';'
  return .tagged base

/-- A type definition. -/
def typeDefinition (g : Phrases) : Reader Content := do
  let _ ← optional (word ["__extension__"])
  word ["typedef"]
  let _ ← qualifiers
  let base ← baseType g Keyword.types true
  let _ ← qualifiers
  let ds ← commas (declarator g .definition)
  attributes
  mark ';'
  match ds with
  | d :: _ => return .defined base d.shape
  | [] => fail

/-- The handlers behind a block that is tried. -/
def handlers : Reader Unit := do
  let handler : Reader Unit := do
    word ["catch"]
    let _ ← group '(' (·.params)
    block
  let _ ← separated (pure ()) handler

/-- The body of a function. -/
def functionBody : Reader Unit :=
  block <|> do
    word ["try"]
    block
    handlers

/-- The definition of a function. -/
def functionDefinition (g : Phrases) (reserved : List Text) (place : Place) : Reader Unit := do
  let _ ← optional (word Keyword.conventions)
  let _ ← specifiers g reserved
  let _ ← optional (word Keyword.conventions)
  let _ ← declarator g place
  functionBody

/-- What stands in the place of a body where there is none. -/
def bodyReplacement : Reader Unit := do
  mark '='
  word ["default", "delete"] <|> do
    let _ ← satisfying fun p => p.first.text == ['0']
  mark ';'

/-- The values that members get before a constructor runs. -/
def memberValues (g : Phrases) : Reader Unit := do
  mark ':'
  let _ ← commas do
    let _ ← qualifiedName g [] (announcedTemplate g)
    group '{' (·.initializer) <|> group '(' (·.arguments)
    optional (symbol "...")

/-- Skip a modifier of a function that has no base type. -/
def dropConstructorModifier? (ps : List Piece) : Option (List Piece) :=
  ((takeModifier? ps).map (·.2)) <|>
    match ps with
    | [] => none
    | p :: rest => if p.isOneOf ["explicit"] then some (dropCondition rest) else none
where
  /-- Skip the condition under which a constructor is explicit. -/
  dropCondition : List Piece → List Piece
    | p :: ps => if p.isGroup '(' && p.readings.expression.isSome then ps else p :: ps
    | [] => []

/-- The head of a constructor or destructor. -/
def constructorHead (g : Phrases) (reserved : List Text) : Reader Unit := do
  skip (dropAll dropConstructorModifier?)
  check fun ps => !ps.head?.any (·.isOneOf (Keyword.withoutType reserved))
  let d ← declarator g .declaration
  if d.isFunction then pure () else fail

/-- The definition of a constructor or destructor. -/
def constructorDefinition (g : Phrases) (reserved : List Text) : Reader Unit := do
  constructorHead g reserved
  (do
    let _ ← optional (memberValues g)
    block)
  <|> (do
    word ["try"]
    let _ ← optional (memberValues g)
    block
    handlers)
  <|> bodyReplacement

/-- The head of a conversion to another type. -/
def conversionHead (g : Phrases) : Reader Unit := do
  skip (dropAll dropConstructorModifier?)
  let _ ← optional (scopes g Keyword.statements)
  word ["operator"]
  let _ ← specifiers g (Keyword.parameters ++ Keyword.named)
  let _ ← abstractDeclarator g

/-- The declaration of a conversion. -/
def conversionDeclaration (g : Phrases) : Reader Unit := do
  conversionHead g
  let _ ← optional do
    mark '='
    let _ ← g.expression false
  mark ';'

/-- The definition of a conversion. -/
def conversionDefinition (g : Phrases) : Reader Unit := do
  conversionHead g
  (do
    let _ ← optional (memberValues g)
    block)
  <|> bodyReplacement

end Bindery.Header
