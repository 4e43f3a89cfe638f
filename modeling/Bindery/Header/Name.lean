import Bindery.Header.Phrase

/-!
# Names

A name may stand in scopes and may have template arguments. Where two colons follow, what was
read so far was a scope and no name.
-/

namespace Bindery.Header

open Reader

/-- The two colons behind a scope. -/
def colons : Reader Unit := symbol "::"

/-- Make sure that no two colons follow. -/
def notAScope : Reader Unit := check fun ps => (behindSymbol "::" ps).isNone

/-- The parentheses around an operand whose type is meant. -/
def typeOfOperand : Reader Unit := do
  word ["decltype"]
  group '(' (·.expression)

/-- A name with template arguments behind the word that announces it. -/
def announcedTemplate (g : Phrases) : Reader Unit := do
  word ["template"]
  let _ ← name []
  g.templateArguments

/-- What may stand behind scopes: a name, perhaps with template arguments, in further scopes, at
most so many, or else what `last` reads. -/
def behindScopesUpTo (g : Phrases) (last : Reader Unit) : Nat → Reader Unit
  | 0 => fail
  | n + 1 =>
    let further : Reader Unit := do
      colons
      behindScopesUpTo g last n
    (do
      let _ ← name Keyword.inScopes
      let _ ← optional g.templateArguments
      further <|> notAScope)
    <|> (do
      typeOfOperand <|> announcedTemplate g
      further)
    <|> further
    <|> do
      last
      notAScope

/-- What may stand behind scopes. -/
def behindScopes (g : Phrases) (last : Reader Unit) : Reader Unit := fun ps =>
  behindScopesUpTo g last ps.length ps

/-- A name, perhaps with template arguments or in scopes, where `last` reads what may stand behind
scopes instead of a name. Only a name that is nothing but a word is given. -/
def qualifiedName (g : Phrases) (reserved : List Text) (last : Reader Unit) :
    Reader (Option Text) :=
  (do
    let n ← name reserved
    let arguments ← optional g.templateArguments
    (do
      colons
      behindScopes g last
      return none)
    <|> do
      notAScope
      return if arguments.isSome then none else some n)
  <|> do
    typeOfOperand <|> announcedTemplate g <|> pure ()
    colons
    behindScopes g last
    return none

/-- The name of a type, perhaps with template arguments or in scopes. -/
def namedType (g : Phrases) (reserved : List Text) : Reader Unit := do
  let _ ← qualifiedName g reserved (announcedTemplate g)

/-- Whether what is at the front could be a scope, as far as its first two pieces show. -/
def mayBeScope : List Piece → Bool
  | p :: q :: _ => p.isMark ':' || q.isMark ':' || q.isMark '<'
  | _ => false

/-- Scopes with their colons. -/
def scopes (g : Phrases) (reserved : List Text) : Reader Unit := do
  check mayBeScope
  let scope (reserved : List Text) : Reader Unit := do
    let _ ← optional do
      let _ ← name reserved
      optional g.templateArguments
    colons
  scope reserved
  let _ ← optional (separated (pure ()) (scope Keyword.inScopes))

/-- The symbols of operators, longer ones before their beginnings. -/
def operatorSymbols : List Text :=
  ["<<=", ">>=", "<=>", "->*", "+=", "-=", "*=", "/=", "%=", "^=", "&=", "|=", "<<", ">>", "==",
    "!=", "<=", ">=", "&&", "||", "++", "--", "->", "+", "-", "*", "/", "%", "^", "&", "|", "~",
    "!", "=", "<", ">", ","].map Text.ofString

/-- What follows the longest symbol of an operator at the front. -/
def behindOperatorSymbol (ps : List Piece) : Option (List Piece) :=
  operatorSymbols.findSome? fun symbol => behindSymbol symbol ps

/-- The symbol of an operator. -/
def operatorSymbol : Reader Unit := fun ps =>
  (behindOperatorSymbol ps).toList.map (⟨(), 0, ·⟩)

/-- Empty brackets that make up the name of an operator. -/
def emptyBrackets (opening : Char) : Reader Unit := groupOf opening List.isEmpty

/-- The name of an operator. -/
def operatorName : Reader Unit := do
  word ["operator"]
  word Keyword.named
    <|> (do word ["new", "delete"]; let _ ← optional (emptyBrackets '['))
    <|> emptyBrackets '('
    <|> emptyBrackets '['
    <|> (do
      let p ← satisfying fun p => Text.startsWith "\"\"" p.first.text
      if p.first.text.length == 2 then do let _ ← name [] else pure ())
    <|> operatorSymbol

/-- The name of a destructor. -/
def destructorName : Reader Unit := do
  mark '~'
  let _ ← name []

end Bindery.Header
