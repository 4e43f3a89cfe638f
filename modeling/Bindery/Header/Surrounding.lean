import Bindery.Header.Definition

/-!
# What surrounds declarations

Namespaces, linkage and templates hold declarations or stand in front of them; names, aliases and
assertions stand between them. None of them declares anything that a binding is made from.
-/

namespace Bindery.Header

open Reader

/-- A second name for a type. -/
def aliasDeclaration (g : Phrases) : Reader Unit := do
  word ["using"]
  let _ ← name ["namespace", "enum"]
  skip (dropAll dropBracketAttributes?)
  mark '='
  g.typeName
  mark ';'

/-- Names made known from elsewhere. -/
def usingDeclaration (g : Phrases) : Reader Unit := do
  word ["using"]
  let _ ← optional (word ["namespace", "enum"])
  let _ ← qualifiedName g ["namespace", "enum"] operatorName
  mark ';'

/-- A condition that is checked when the header is read. -/
def assertion (g : Phrases) : Reader Unit := do
  word ["static_assert"]
  groupOf '(' fun inside =>
    (whole (do
      let _ ← g.expression false
      let _ ← optional do
        mark ','
        Expression.texts) inside).isSome
  mark ';'

/-- A named condition on types. -/
def concept (g : Phrases) : Reader Unit := do
  word ["concept"]
  let _ ← name []
  mark '='
  let _ ← g.expression false
  mark ';'

/-- Names in one another. -/
def nestedNames : Reader Unit := do
  let _ ← separated colons do
    let _ ← optional (word ["inline"])
    let _ ← name []

/-- A namespace, or a second name for one. -/
def namespaceDefinition : Reader Unit :=
  (do
    let _ ← optional (word ["inline"])
    word ["namespace"]
    skip (dropAll dropBracketAttributes?)
    let _ ← optional nestedNames
    block)
  <|> do
    word ["namespace"]
    let _ ← name []
    mark '='
    let _ ← optional colons
    let _ ← separated colons (name [])
    mark ';'

/-- A declaration with foreign linkage. -/
def linkage (g : Phrases) : Reader Unit := do
  word ["extern"]
  Expression.text
  block <|> functionDefinition g Keyword.statements .declaration <|> do
    let _ ← declaration g

/-- A friend of a class. -/
def friendDeclaration (g : Phrases) : Reader Unit := do
  let _ ← optional (word ["constexpr"])
  word ["friend"]
  (do let _ ← declaration g) <|> functionDefinition g Keyword.statements .declaration <|> do
    let _ ← optional (word ["class", "struct", "union"])
    namedType g []
    mark ';'

/-- A parameter of a template, with templates inside it nested at most so deep. -/
def templateParameterUpTo (g : Phrases) : Nat → Reader Unit
  | 0 => fail
  | n + 1 =>
    (do
      let _ ← optional do
        word ["template"]
        mark '<'
        let _ ← commas (templateParameterUpTo g n)
        mark '>'
      word ["typename", "class"]
      let _ ← optional (symbol "...")
      let _ ← optional (name [])
      let _ ← optional do
        mark '='
        g.typeName)
    <|> do
      let _ ← parameter g true

/-- A parameter of a template. -/
def templateParameter (g : Phrases) : Reader Unit := fun ps => templateParameterUpTo g ps.length ps

/-- The parameters of a template. -/
def templateHead (g : Phrases) : Reader Unit := do
  word ["template"]
  mark '<'
  let _ ← optional (commas (templateParameter g))
  mark '>'
  let _ ← optional do
    word ["requires"]
    g.expression false

/-- A template, or one of its instances. -/
def templateDeclaration (g : Phrases) : Reader Unit :=
  (do
    let _ ← separated (pure ()) (templateHead g)
    (do let _ ← emptyDeclaration g) <|> aliasDeclaration g <|> (do let _ ← declaration g) <|>
      functionDefinition g Keyword.statements .declaration <|> concept g <|>
      friendDeclaration g <|> constructorDefinition g Keyword.statements <|>
      (do constructorHead g Keyword.statements; mark ';') <|> conversionDefinition g <|>
      conversionDeclaration g)
  <|> do
    word ["template"]
    (do
      let _ ← specifiers g Keyword.statements
      let _ ← declarator g .declaration)
    <|> (do let _ ← declarator g .declaration)
    mark ';'

end Bindery.Header
