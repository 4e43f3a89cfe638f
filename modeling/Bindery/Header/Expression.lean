import Bindery.Header.Abstract

/-!
# Expressions

An expression is a row of operands with operators between them. How operators bind matters only
where it decides what may follow, so the reader keeps no tree: it knows the extent of an
expression, whether a value may be assigned to it, and what its outermost operator is.
-/

namespace Bindery.Header

open Reader

namespace Expression

/-- A number. -/
def number : Reader Unit :=
  let digits := piece fun p => if p.kind? == some TokenKind.number then some () else none
  digits <|> do
    mark '.'
    check fun ps => ps.head?.any Piece.adjoins
    digits

/-- A character in quotes. -/
def character : Reader Unit :=
  piece fun p => if p.kind? == some TokenKind.character then some () else none

/-- Text in quotes. -/
def text : Reader Unit :=
  piece fun p => if p.kind? == some TokenKind.text then some () else none

/-- Whether a piece is text in quotes with a suffix. -/
def isSuffixed (p : Piece) : Bool := p.first.text.getLast?.any (· != '"')

/-- Skip further texts, and names between them that stand for texts. A suffix ends the row. -/
def dropTexts : List Piece → List Piece
  | [] => []
  | p :: ps =>
    if p.kind? == some TokenKind.text then if isSuffixed p then ps else dropTexts ps
    else if p.kind? == some TokenKind.word &&
        !p.isOneOf (Keyword.infixes ++ Keyword.assignments) then dropTexts ps
    else p :: ps

/-- One text or several in a row, which make up one text. -/
def texts : Reader Unit :=
  (do
    let p ← satisfying fun p => p.kind? == some TokenKind.text
    skip fun ps => if isSuffixed p then ps else dropTexts ps)
  <|> do
    let _ ← name Keyword.operands
    check fun ps => ps.head?.any fun p => p.kind? == some TokenKind.text
    skip dropTexts

/-- A name, perhaps in scopes. -/
def named (g : Phrases) : Reader Unit := do
  let _ ← qualifiedName g Keyword.operands do
    announcedTemplate g <|> operatorName <|> destructorName <|> memberPointer

/-- What a function without a name takes from its surroundings. -/
def capture (g : Phrases) : Reader Unit :=
  mark '=' <|> mark '&' <|> (do
    let _ ← optional (mark '&')
    let _ ← name []
    let _ ← optional (symbol "...")) <|> (do
    let _ ← optional (mark '&')
    let _ ← name []
    mark '='
    let _ ← g.expression false) <|> do
    mark '*'
    word ["this"]

/-- A function without a name. -/
def lambda (g : Phrases) : Reader Unit := do
  groupOf '[' fun inside => (list false (capture g) inside).isSome
  let _ ← optional (do
    let _ ← group '(' (·.params)
    functionTail g)
  block

/-- The number of elements behind the type of a new object. -/
def newDimensions : Reader Unit :=
  skip fun ps => ps.dropWhile fun p => p.isGroup '[' && p.readings.size.isSome

/-- A new object. -/
def creation (g : Phrases) : Reader Unit := do
  let _ ← optional colons
  word ["new"]
  let _ ← optional (group '(' (·.arguments))
  g.specifier
  newDimensions
  let _ ← optional (group '(' (·.arguments) <|> group '{' (·.initializer))

/-- The end of an object. -/
def deletion (g : Phrases) : Reader Unit := do
  let _ ← optional colons
  word ["delete"]
  let _ ← optional (emptyBrackets '[')
  let _ ← g.expression false

/-- One of several values, chosen by type. -/
def choice (g : Phrases) : Reader Unit := do
  word ["_Generic"]
  groupOf '(' fun inside =>
    (whole (do
      let _ ← g.expression false
      mark ','
      let case : Reader Unit := do
        g.typeName
        mark ':'
        let _ ← g.expression false
      let _ ← commas case) inside).isSome

/-- A size or an alignment in the place of a value. -/
def measure (g : Phrases) : Reader Unit :=
  (do
    word ["sizeof"]
    group '(' (·.typeName) <|> do
      symbol "..."
      groupOf '(' fun inside =>
        match inside with
        | [p] => p.word?.isSome
        | _ => false)
  <|> (do
    word Keyword.alignmentsOf
    group '(' (·.typeName))
  <|> do
    word ["offsetof"]
    groupOf '(' fun inside =>
      (whole (do
        g.typeName
        mark ','
        let _ ← name []) inside).isSome

/-- An operand with nothing before or behind it. -/
def primary (g : Phrases) : Reader Form :=
  (do
    named g
    (do group '{' (·.initializer); return {}) <|> pure { assignable := true })
  <|> (do number <|> character <|> texts <|> word Keyword.values; return {})
  <|> (do group '(' (·.expression); return { assignable := true })
  <|> (do
    word Keyword.primitives
    (do group '{' (·.initializer); return {}) <|> do
      group '(' (·.arguments)
      return { assignable := true })
  <|> (do
    (do group '(' (·.typeName); group '{' (·.initializer)) <|> lambda g <|>
      measure g <|> choice g <|> assembly <|> creation g <|> deletion g
    return {})

/-- The name of a part behind a point or an arrow. -/
def part (g : Phrases) : Reader Unit :=
  (do
    let _ ← qualifiedName g ["template"] destructorName)
  <|> destructorName <|> announcedTemplate g

/-- What may follow an operand directly. -/
def suffix (g : Phrases) : Reader Form :=
  (do
    group '(' (·.arguments) <|> group '[' (·.subscript) <|> do
      symbol "->" <|> symbol ".*" <|> do
        mark '.'
        check fun ps => !ps.head?.any fun p => p.isMark '*' && p.adjoins
      part g
    return { assignable := true })
  <|> do
    symbol "++" <|> symbol "--"
    return {}

/-- Any number of suffixes, at most so many. -/
def suffixes (g : Phrases) : Nat → Form → Reader Form
  | 0, f => pure f
  | n + 1, f => (suffix g >>= suffixes g n) <|> pure f

/-- An operand with what is written directly before and behind it. -/
def operand (g : Phrases) (angled : Bool) : Reader Form :=
  (do
    let f ← primary g
    fun ps => suffixes g ps.length f ps)
  <|> (do
    mark '*' <|> mark '&'
    let f ← g.operand angled
    return { f with assignable := true })
  <|> (do
    mark '-' <|> mark '+' <|> mark '!' <|> mark '~' <|> word Keyword.operators <|>
      group '(' (·.typeName) <|> word ["sizeof"]
    g.operand angled)
  <|> do
    word ["__extension__"]
    g.expression angled

/-- What a symbol does behind an operand. -/
inductive Joint where
  /-- It stands between two operands. -/
  | between
  /-- It assigns. -/
  | assigning
  /-- It asks for one of two values. -/
  | asking
  /-- It repeats the operand for each element of a pack. -/
  | expanding
  /-- It belongs to the operand. -/
  | suffix
  deriving DecidableEq, Repr

/-- The symbols that may stand behind an operand, longer ones before their beginnings. -/
def joints : List (String × Joint) :=
  [("<<=", .assigning), (">>=", .assigning), ("<=>", .between), ("...", .expanding),
    ("<<", .between), (">>", .between), ("<=", .between), (">=", .between), ("==", .between),
    ("!=", .between), ("&&", .between), ("||", .between), ("+=", .assigning), ("-=", .assigning),
    ("*=", .assigning), ("/=", .assigning), ("%=", .assigning), ("^=", .assigning),
    ("&=", .assigning), ("|=", .assigning), ("++", .suffix), ("--", .suffix), ("->", .suffix),
    (".*", .suffix), ("+", .between), ("-", .between), ("*", .between), ("/", .between),
    ("%", .between), ("|", .between), ("^", .between), ("&", .between), ("<", .between),
    (">", .between), ("=", .assigning), ("?", .asking)]

/-- The longest symbol behind an operand and what is left behind it. A closing angle bracket that
ends the expression is no symbol of it. -/
def jointAt (angled : Bool) (ps : List Piece) : Option (Joint × List Piece) :=
  match ps with
  | [] => none
  | p :: rest =>
    if angled && p.isMark '>' then none
    else if p.isOneOf Keyword.infixes then some (.between, rest)
    else if p.isOneOf Keyword.assignments then some (.assigning, rest)
    else joints.findSome? fun (symbol, joint) =>
      (behindSymbol (Text.ofString symbol) ps).map (joint, ·)

/-- Take the symbol behind an operand. -/
def joint (angled : Bool) : Reader Joint := fun ps =>
  (jointAt angled ps).toList.map fun (joint, rest) => ⟨joint, 0, rest⟩

/-- The rest of an expression behind its first operand. -/
def continued (g : Phrases) (angled : Bool) (f : Form) : Reader Form := do
  match ← joint angled with
  | .between =>
    let right ← g.expression angled
    return { binary := !right.loose, loose := right.loose }
  | .assigning =>
    if f.assignable then
      (do let _ ← g.expression angled) <|> group '{' (·.initializer)
      return {}
    else fail
  | .asking =>
    let _ ← optional (commas (g.expression angled))
    mark ':'
    let _ ← g.expression angled
    return { loose := true }
  | .expanding | .suffix => fail

end Expression

/-- An expression; the flag says that a closing angle bracket would end it. -/
def expression (g : Phrases) (angled : Bool) : Reader Form := do
  let f ← Expression.operand g angled
  let f ← (do symbol "..."; return { loose := true }) <|> pure f
  Expression.continued g angled f <|> pure f

/-- One template argument: a type if it can be one, else a value. -/
def templateArgument (g : Phrases) : Reader Unit := settle do
  (do
    g.typeName
    (do symbol "..."; weigh 2) <|> weigh 3)
  <|> do
    let _ ← g.expression true
    weigh 1

/-- Template arguments in angle brackets. -/
def templateArguments (g : Phrases) : Reader Unit := do
  mark '<'
  check fun ps =>
    !(ps.head?.any fun p => p.adjoins && (p.isMark '<' || p.isMark '=')) && ps.any (·.isMark '>')
  (do let _ ← commas (templateArgument g)) <|> pure ()
  mark '>'

/-- The layer above a layer. -/
def Phrases.next (g : Phrases) : Phrases where
  expression angled := settle (Header.expression g angled)
  operand angled := settle (Expression.operand g angled)
  specifier := do let _ ← baseType g Keyword.typeNames false
  typeName := settle (Header.typeName g)
  templateArguments := settle (Header.templateArguments g)

/-- The readers of phrases that contain one another at most so deep. -/
def Phrases.upTo (depth : Nat) : Phrases := depth.repeat Phrases.next Phrases.none

end Bindery.Header
