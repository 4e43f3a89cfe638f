import Bindery.Header.Surrounding

/-!
# Statements and contents

A header, like the body of a function, is a row of declarations, definitions and statements. Most
of them declare nothing that a binding is made from, but they have to be told apart from those
that do, and from what is not well formed.
-/

namespace Bindery.Header

open Reader

/-- A directive line that is no part of a conditional. -/
def directive : Reader Unit :=
  piece fun p =>
    if p.kind? == some (TokenKind.directive true) && Directive.isPlain p.first.text then some ()
    else none

/-- A conditional part with declarations and statements. -/
def conditional (f : Readings → Bool) : Reader Unit :=
  piece fun p => if p.isConditional && f p.readings then some () else none

namespace Statement

/-- The condition of a statement: perhaps something that is done before, and a value or a variable
with a value. -/
def condition (g : Phrases) : Reader Unit :=
  groupOf '(' fun inside =>
    (whole (do
      let _ ← optional ((do let _ ← declaration g) <|> aliasDeclaration g <|>
        (do let _ ← typeDefinition g) <|> do
          let _ ← optional (commaExpression g)
          mark ';')
      commaExpression g <|> do
        let _ ← specifiers g Keyword.statements
        let _ ← declarator g .declaration
        (do mark '='; let _ ← g.expression false) <|> group '{' (·.initializer)) inside).isSome

/-- What controls a loop over a range or with a counter. -/
def range (g : Phrases) : Reader Unit :=
  groupOf '(' fun inside =>
    let value : Reader Unit := optional (commaExpression g) >>= fun _ => pure ()
    (whole ((do
        (do let _ ← declaration g) <|> (do value; mark ';')
        value
        mark ';'
        value)
      <|> (do
        let _ ← optional (declaration g)
        let _ ← specifiers g Keyword.statements
        let _ ← declarator g .declaration
        mark ':'
        (do let _ ← g.expression false) <|> group '{' (·.initializer))) inside).isSome

/-- What leaves a function or a loop. -/
def leaving (g : Phrases) : Reader Unit := do
  (do
    word ["return"]
    commaExpression g <|> group '{' (·.initializer) <|> pure ())
  <|> word ["break", "continue"]
  <|> (do word ["goto"]; let _ ← name [])
  <|> (do word ["throw", "co_return"]; let _ ← optional (g.expression false))
  <|> (do word ["co_yield"]; let _ ← g.expression false)
  mark ';'

/-- A value that is not used, or several with commas between them. It is told whether there are
several, or an outermost operator stands between two operands. -/
def operation (g : Phrases) : Reader Bool := do
  check fun ps => !ps.head?.any (·.isOneOf Keyword.statementStarts)
  let forms ← commas (g.expression false)
  mark ';'
  return forms.length != 1 || forms.any (·.binary)

/-- A value that is not used. At the outermost level it is one value, and no outermost operator
stands between two operands. -/
def value (g : Phrases) (top : Bool) : Reader Unit := do
  let operates ← operation g
  if top && operates then fail else pure ()

end Statement

/-- A statement, which may hold others without braces around them, nested at most so deep. -/
def statementUpTo (g : Phrases) : Nat → Bool → Reader Unit
  | 0, _ => fail
  | n + 1, top =>
    let inner := statementUpTo g n false
    mark ';'
    <|> block
    <|> Statement.value g top
    <|> Statement.leaving g
    <|> (do
      word ["if"]
      let _ ← optional (word ["constexpr"])
      Statement.condition g
      inner
      let _ ← optional do
        word ["else"]
        inner)
    <|> (do word ["switch"]; Statement.condition g; block)
    <|> (do word ["while"]; Statement.condition g; inner)
    <|> (do
      word ["do"]
      inner
      word ["while"]
      let _ ← group '(' (·.expression)
      mark ';')
    <|> (do word ["for"]; Statement.range g; inner)
    <|> (do word ["try"]; block; handlers)
    <|> (do
      word ["case"]
      let _ ← g.expression false
      mark ':'
      inner <|> pure ())
    <|> (do word ["default"]; mark ':'; inner <|> pure ())
    <|> (do
      let _ ← name Keyword.statements
      notAScope
      mark ':'
      inner <|> do let _ ← declaration g)
    <|> do
      check fun ps => (dropBracketAttributes? ps).isSome
      skip (dropAll dropBracketAttributes?)
      inner

/-- A statement; the flag says that it stands at the outermost level. -/
def statement (g : Phrases) (top : Bool) : Reader Unit := fun ps =>
  statementUpTo g (ps.length + 1) top ps

/-- A declaration or a definition. -/
def declared (g : Phrases) : Reader Content :=
  declaration g
  <|> emptyDeclaration g
  <|> typeDefinition g
  <|> do
    functionDefinition g Keyword.statements .declaration <|>
      constructorDefinition g Keyword.statements <|> conversionDefinition g <|> linkage g <|>
      namespaceDefinition <|> usingDeclaration g <|> aliasDeclaration g <|> assertion g <|>
      concept g <|> templateDeclaration g
    return .nothing

/-- One part of a header or of a block; the flag says that it stands at the outermost level. -/
def content (g : Phrases) (top : Bool) : Reader Content :=
  declared g
  <|> (do
    statement g top <|> directive <|> conditional (·.block)
    return .nothing)
  <|> do
    conversionDeclaration g
    return .untyped

end Bindery.Header
