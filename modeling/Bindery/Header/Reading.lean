import Bindery.Header.Group
import Bindery.Header.Item
import Bindery.Header.Outcome
import Bindery.Header.Scanner

/-!
# Reading a header

Each item is read by itself: it gives declarations, or nothing where it declares no type or
function that a binding could use, or a fault. A faulty item is reported and the next one is read.
-/

namespace Bindery.Header

open Reader

/-- Whether a text is the condition of a directive line. What is defined counts as a value, and
text does not. -/
def isCondition (condition : Text) : Bool :=
  let ts := (tokens condition).filter fun t => !t.isTheWord "defined"
  !ts.any (·.kind == .text) &&
    match Piece.ofTokens? ts with
    | some ps => (whole ((Phrases.upTo (ts.length + 1)).expression false) ps).isSome
    | none => false

/-- Whether a token is no directive line that opens or divides a conditional part, or one whose
condition is in order. -/
def hasWholeCondition (t : Token) : Bool :=
  !t.isDirective ||
    if Directive.inquiries.contains (Directive.nameOf t.text) then Directive.isInquiry t.text
    else (Directive.condition? t.text).all isCondition

/-- Whether the tokens of an item are all whole. -/
def isWhole (item : Item) : Bool :=
  item.tokens.all fun t => t.kind != .stray && hasWholeCondition t

/-- Read the pieces of an item as a row of declarations, definitions and statements. -/
def contents? (item : Item) (ps : List Piece) : Option Contents :=
  let g := Phrases.upTo (item.tokens.length + 1)
  let entry : Reader Content :=
    if item.linkage then
      declaration g <|> do
        functionDefinition g Keyword.statements .declaration
        return .nothing
    else content g !item.nested
  if isWhole item then
    (allWithSource entry ps).map fun w => w.value.map fun (c, source) => (c, Piece.flatten source)
  else none

/-- The outline of a tagged type, whatever its braces hold. -/
def outline (g : Phrases) : Reader Unit := do
  (do
    word ["enum"]
    let _ ← optional (word ["class", "struct"])
    let _ ← optional (tag g Keyword.enumerations))
  <|> do
    word ["struct", "union", "class"]
    recordPrelude
    let _ ← optional (tag g Keyword.records)
    let _ ← optional (word Keyword.closures)
  let _ ← optional do
    mark ':'
    skip fun ps => ps.dropWhile (!·.isGroup '\x7b')
  let _ ← optional (satisfying (·.isGroup '\x7b'))
  skip (dropOptional dropAttribute?)

/-- Whether pieces are a tagged type alone, or the word alone that begins a type definition. -/
def standsAlone (ps : List Piece) : Bool :=
  match ps with
  | [] => false
  | [p] => p.isOneOf ("typedef" :: Keyword.tags)
  | _ => (whole (outline (Phrases.upTo (ps.length + 1))) ps).isSome

/-- Pieces with a semicolon behind them that is not there. -/
def withSemicolon (ps : List Piece) : List Piece :=
  let place := (ps.getLast?.map fun p => p.place + p.tokens.length).getD 0
  ps ++ [.token place ⟨.mark, [';'], []⟩]

/-- Whether a piece may go on with what could end before it. -/
def mayGoOn (p : Piece) : Bool :=
  p.isGroup '(' || p.isGroup '[' || p.isGroup '\x7b' || [',', ';', '=', ':'].any (p.isMark ·)

/-- The greatest number of pieces, at most so many, that would be complete with a semicolon behind
them, and the contents that they make up then. -/
def completeUpTo (item : Item) (ps : List Piece) : Nat → Option (Nat × Contents)
  | 0 => none
  | n + 1 =>
    match contents? item (withSemicolon (ps.take (n + 1))) with
    | some contents => some (n + 1, contents)
    | none => completeUpTo item ps n

/-- Read the pieces of an item that lack a semicolon in their midst: what stands before it is
faulty, and what follows is read by itself. Where one short piece too many would explain the fault
as well, nothing is given. -/
def readSplit? (item : Item) (ps : List Piece) : Option (List Outcome) := do
  let (n, contents) ← completeUpTo item ps (ps.length - 1)
  let next ← ps[n]?
  if mayGoOn next then none
  else if next.first.isShort && (contents? item (ps.eraseIdx n)).isSome then none
  else
    let rest ← contents? { item with linkage := false } (ps.drop n)
    let offset := item.start + Token.widthOf (Piece.flatten (ps.take n))
    some (unfinished item.start contents ++ outcomesFrom offset rest)

/-- Whether a piece is stray. -/
def isStray (p : Piece) : Bool := p.kind? == some TokenKind.stray

/-- Read the pieces of a tagged type alone, which ends before its semicolon. It is read also where
the text ends without one, and where only stray characters stand before it. -/
def readTagged (item : Item) (ps : List Piece) (ended : Bool) : List Outcome :=
  let behind := Piece.flatten (ps.reverse.takeWhile isStray).reverse
  let type := (ps.reverse.dropWhile isStray).reverse
  let tokens := Piece.flatten type
  let whole := Token.spanFrom item.start (Piece.flatten ps)
  if ended && behind.isEmpty then malformed whole
  else
    match contents? { item with tokens := tokens } (withSemicolon type) with
    | some contents =>
      if behind.isEmpty then unfinished item.start contents
      else
        outcomesFrom item.start contents ++
          malformed (Token.spanFrom (item.start + Token.widthOf tokens) behind)
    | none => malformed whole

/-- Read the pieces of an item. -/
def readPieces (item : Item) (ps : List Piece) : List Outcome :=
  match contents? item ps with
  | some contents => outcomesFrom item.start contents
  | none =>
    let ended := ps.getLast?.any (·.isMark ';')
    let body := if ended then ps.dropLast else ps
    if !item.linkage && standsAlone (body.filter (!isStray ·)) then readTagged item body ended
    else (readSplit? item ps).getD (malformed item.span)

/-- Read one item. -/
def readItem (item : Item) : List Outcome :=
  match Piece.ofTokens? item.tokens with
  | none => malformed item.span
  | some ps => readPieces item ps

/-- The declarations of a header and the faults of its items, each in the order of the source. -/
structure Reading where
  /-- The declarations with their places. -/
  declarations : List Located
  /-- A diagnostic for every faulty item. -/
  diagnostics : List Diagnostic
  deriving DecidableEq, Repr

/-- Read a header. A linkage block that is never closed is a fault that points nowhere. -/
def read (source : Text) : Reading :=
  let (items, openBlocks) := splitItems (tokens source)
  let outcomes := items.flatMap readItem
  { declarations := outcomes.flatMap Outcome.declarations
    diagnostics := outcomes.flatMap Outcome.diagnostics ++
      List.replicate openBlocks (Fault.malformed.diagnostic {}) }

end Bindery.Header
