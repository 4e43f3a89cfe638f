import Bindery.Header.TypeSpecifier

/-!
# Functions and types without a name

What may follow the parameters of a function, declarators without a name, and the names of types
that are built from them.
-/

namespace Bindery.Header

open Reader

/-- A line of machine code. -/
def assembly : Reader Unit := do
  word Keyword.assembly
  skip fun ps => ps.dropWhile (·.isOneOf ["volatile", "__volatile__", "inline", "goto"])
  groupOf '(' fun inside => inside.head?.any (·.kind? == some TokenKind.text)

/-- What a function may throw. -/
def exceptions (g : Phrases) : Reader Unit :=
  (do
    word ["noexcept"]
    emptyBrackets '(' <|> group '(' (·.expression) <|>
      check fun ps => !ps.head?.any (·.isGroup '('))
  <|> do
    word ["throw"]
    groupOf '(' fun inside => (list false g.typeName inside).isSome

/-- Attributes at the end of a function, perhaps behind the name that the linker knows. -/
def closingAttributes : Reader Unit := do
  let _ ← optional assembly
  let drop (ps : List Piece) := dropAttribute? ps <|> dropBracketAttributes? ps
  check fun ps => (drop ps).isSome
  skip (dropAll drop)

/-- What may follow the parameters of a function. -/
def functionTail (g : Phrases) : Reader Unit := do
  attributes
  let _ ← qualifiers
  referenceMark <|> pure ()
  exceptions g <|> pure ()
  pure () <|> closingAttributes
  (do symbol "->"; g.typeName) <|> pure ()
  (do word ["requires"]; let _ ← g.expression false)
    <|> skip fun ps => ps.dropWhile (·.isOneOf Keyword.closures)

/-- Parameters, with what may follow them, or an array size behind a declarator. The parameters of
a declared name weigh something, so that a function is preferred to a variable with an initial
value. -/
def declaratorSuffix (tail : Reader Unit) (w : Int) (d : Declarator) : Reader Declarator :=
  (do
    let params ← group '(' (·.params)
    weigh w
    tail
    return .function d params)
  <|> do
    let size ← group '[' (·.size)
    return .array d size

/-- Any number of suffixes, at most so many. -/
def abstractSuffixes (g : Phrases) : Nat → Declarator → Reader Declarator
  | 0, d => pure d
  | n + 1, d => (declaratorSuffix (functionTail g) 0 d >>= abstractSuffixes g n) <|> pure d

/-- A declarator without a name, with at most so many parts. -/
def abstractUpTo (g : Phrases) : Nat → Reader Declarator
  | 0 => fail
  | n + 1 =>
    (do
      pointerMark
      weigh 1
      let d ← abstractUpTo g n <|> pure .nameless
      return .pointer d)
    <|> (do
      referenceMark
      let _ ← optional (abstractUpTo g n)
      return .nameless)
    <|> (do
      let d ← group '(' (·.abstract)
      abstractSuffixes g n (.parens d))
    <|> (declaratorSuffix (functionTail g) 0 .nameless >>= abstractSuffixes g n)

/-- A declarator without a name. -/
def abstractDeclarator (g : Phrases) : Reader Declarator := fun ps =>
  abstractUpTo g (ps.length + 1) ps

/-- A type as it is named outside declarations. -/
def typeName (g : Phrases) : Reader Unit := do
  let _ ← qualifiers
  let _ ← baseType g Keyword.typeNames false
  let _ ← qualifiers
  let _ ← optional (abstractDeclarator g)

end Bindery.Header
