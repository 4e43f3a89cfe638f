import Bindery.Header.Member

/-!
# Grouping by brackets

Tokens are grouped by a stack of the brackets that are open, and a conditional part is a group
too. When a group closes, its inside is complete, and all its readings are made there and then;
so every group is read once, however deep it lies.
-/

namespace Bindery.Header

open Reader

/-- Words that cannot begin a value in parentheses, where the name of a type may stand as well. -/
def typeStarts : List Text := Keyword.types.filter fun w => !Keyword.operands.contains w

/-- Words that cannot begin an initial value in parentheses, where a parameter may stand as
well. -/
def parameterStarts : List Text := Keyword.parameters.filter fun w => !Keyword.operands.contains w

/-- A value between parentheses: one expression, several with commas between them, or a block. -/
def enclosedValue (g : Phrases) : Reader Unit :=
  (do
    check fun ps => !ps.head?.any (·.isOneOf typeStarts)
    commaExpression g)
  <|> block

/-- An argument of a call. -/
def argument (g : Phrases) : Reader Unit := settle do
  (do let _ ← g.expression false) <|> group '{' (·.initializer) <|> block

/-- An initial value, where a parameter may stand as well. -/
def initialValue (g : Phrases) : Reader Unit := do
  check fun ps => !ps.head?.any (·.isOneOf parameterStarts)
  argument g

/-- The readings of a pair of parentheses. -/
def parenthesesReadings (g : Phrases) (inside : List Piece) : Readings where
  expression := whole (enclosedValue g) inside
  typeName := whole g.typeName inside
  arguments := forget (list false (argument g) inside)
  values := forget (list false (initialValue g) inside)
  params := parameters? g inside
  declarator := enclosed? (declarator g .declaration) (-10) inside
  field := enclosed? (declarator g .field) (-10) inside
  definition := enclosed? (declarator g .definition) (-10) inside
  abstract := enclosed? (abstractDeclarator g) 0 inside

/-- Skip the words that may stand before the size of an array. -/
def dropSizeWords (inside : List Piece) : List Piece :=
  inside.dropWhile (·.isOneOf ("static" :: Keyword.qualifiers))

/-- The size between brackets, in its spelling. -/
def sizeOf? (g : Phrases) (inside : List Piece) : Option (Weighted Text) :=
  let ps := dropSizeWords inside
  if ps.isEmpty then some ⟨[], 0⟩
  else
    (whole ((do let _ ← g.expression false) <|> mark '*') ps).map fun w =>
      ⟨Piece.spelling ps, w.weight⟩

/-- The readings of a pair of brackets. -/
def bracketReadings (g : Phrases) (inside : List Piece) : Readings where
  size := sizeOf? g inside
  subscript := forget (list false (argument g) inside)

/-- An initial value between braces, perhaps with the place that it is for. -/
def initialEntry (g : Phrases) : Reader Unit := settle do
  let designator : Reader Unit :=
    group '[' (fun r => forget r.size) <|> do
      mark '.'
      let _ ← name []
  let value : Reader Unit := (do let _ ← g.expression false) <|> group '{' (·.initializer)
  value
    <|> (do
      let _ ← separated (pure ()) designator
      mark '='
      value)
    <|> do
      let _ ← name []
      mark ':'
      value

/-- The readings of a pair of braces. -/
def braceReadings (g : Phrases) (inside : List Piece) : Readings where
  initializer := forget (list true (initialEntry g) inside)
  block := (all (content g false) inside).isSome
  members := members? g inside
  enumerators := enumerators? g inside

/-- The readings of a conditional part whose conditions are in order. Nothing that stands in it
counts. -/
def conditionalReadings (g : Phrases) (inside : List Piece) : Readings :=
  let parts := Piece.branches inside
  let value : Reader Unit := do
    let _ ← enumerator g
    mark ','
  { block := parts.all fun part => (all (content g false) part).isSome
    members := if parts.all fun part => (members? g part).isSome then some [] else none
    enumerators := if parts.all fun part => (all value part).isSome then some ⟨[], 0⟩ else none }

/-- The readings of a group, from the token that opens it and its inside. -/
def readingsOf (opening : Token) (inside : List Piece) (depth : Nat) : Readings :=
  let g := Phrases.upTo depth
  if opening.isMark '(' then parenthesesReadings g inside
  else if opening.isMark '[' then bracketReadings g inside
  else if opening.isMark '\x7b' then braceReadings g inside
  else conditionalReadings g inside

/-- A group that is open. -/
structure OpenGroup where
  /-- The number of tokens before it. -/
  place : Nat
  /-- The token that opens it. -/
  opening : Token
  /-- Its pieces so far, the last one first. -/
  inside : List Piece := []
  /-- Its tokens so far, the last one first. -/
  source : List Token

namespace OpenGroup

/-- Whether a token closes the group. -/
def closesWith (o : OpenGroup) (t : Token) : Bool :=
  if o.opening.isMark '(' then t.isMark ')'
  else if o.opening.isMark '[' then t.isMark ']'
  else if o.opening.isMark '\x7b' then t.isMark '\x7d'
  else t.isDirective && Directive.closes t.text

/-- Add a piece. -/
def push (o : OpenGroup) (p : Piece) : OpenGroup :=
  { o with inside := p :: o.inside, source := p.tokens.reverse ++ o.source }

/-- Close the group with a token. -/
def close (o : OpenGroup) (t : Token) : Piece :=
  let source := t :: o.source
  let inside := o.inside.reverse
  .group o.place o.opening inside source.reverse (readingsOf o.opening inside source.length)

end OpenGroup

/-- The state of grouping between two tokens. -/
structure Grouping where
  /-- The number of tokens taken. -/
  count : Nat := 0
  /-- The groups that are open, the innermost first. -/
  opened : List OpenGroup := []
  /-- The pieces outside all groups so far, the last one first. -/
  outside : List Piece := []

namespace Grouping

/-- Whether a token opens a group. -/
def opens (t : Token) : Bool :=
  t.isMark '(' || t.isMark '[' || t.isMark '\x7b' || (t.isDirective && Directive.opens t.text)

/-- Whether a token is a bracket that closes. -/
def closes (t : Token) : Bool := t.isMark ')' || t.isMark ']' || t.isMark '\x7d'

/-- Add a piece. -/
def push (s : Grouping) (p : Piece) : Grouping :=
  match s.opened with
  | [] => { s with outside := p :: s.outside }
  | o :: os => { s with opened := o.push p :: os }

/-- Take a token, all but the count; a bracket that closes what is not open cannot be taken. -/
def accept? (s : Grouping) (t : Token) : Option Grouping :=
  if opens t then
    some { s with opened := { place := s.count, opening := t, source := [t] } :: s.opened }
  else
    match s.opened with
    | o :: os =>
      if o.closesWith t then some (push { s with opened := os } (o.close t))
      else if closes t then none
      else some (s.push (.token s.count t))
    | [] => if closes t then none else some (s.push (.token s.count t))

/-- Take a token; a bracket that closes what is not open cannot be taken. -/
def step? (s : Grouping) (t : Token) : Option Grouping :=
  (s.accept? t).map fun s' => { s' with count := s.count + 1 }

end Grouping

/-- Group tokens by their brackets; nothing is given if the brackets do not match. -/
def Piece.ofTokens? (ts : List Token) : Option (List Piece) := do
  let s ← ts.foldlM Grouping.step? {}
  if s.opened.isEmpty then some s.outside.reverse else none

end Bindery.Header
