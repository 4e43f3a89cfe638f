import Bindery.Header.Declarator
import Bindery.Header.Directive

/-!
# Tokens grouped by brackets

At one level, a token list is a sequence of pieces: single tokens and bracketed groups. Each piece
knows its place, the number of tokens before it. What a group can be read as depends on its inside
alone, so each group carries its readings with it. The same tokens may be read in several ways;
each reading has a weight, and where several are possible the heaviest one counts.
-/

namespace Bindery.Header

/-- What was read, and how well it fits. -/
structure Weighted (α : Type) where
  /-- What was read. -/
  value : α
  /-- How well it fits: the greater the better. -/
  weight : Int
  deriving DecidableEq, Repr

/-- What the inside of a bracketed group can be read as. A part that does not belong to the kind
of bracket, or cannot be read, is absent. -/
structure Readings where
  /-- In parentheses: an expression. -/
  expression : Option (Weighted Unit) := none
  /-- In parentheses: the name of a type, for a conversion. -/
  typeName : Option (Weighted Unit) := none
  /-- In parentheses: the arguments of a call. -/
  arguments : Option (Weighted Unit) := none
  /-- In parentheses: initial values, where parameters could stand as well. -/
  values : Option (Weighted Unit) := none
  /-- In parentheses: parameters. -/
  params : Option (Weighted (List Param)) := none
  /-- In parentheses: the declarator of a variable, a function or a parameter. -/
  declarator : Option (Weighted Declarator) := none
  /-- In parentheses: the declarator of a field. -/
  field : Option (Weighted Declarator) := none
  /-- In parentheses: the declarator of a type definition. -/
  definition : Option (Weighted Declarator) := none
  /-- In parentheses: a declarator without a name. -/
  abstract : Option (Weighted Declarator) := none
  /-- In brackets: the size of an array. -/
  size : Option (Weighted Text) := none
  /-- In brackets: the arguments of a subscript. -/
  subscript : Option (Weighted Unit) := none
  /-- In braces: a list of initial values. -/
  initializer : Option (Weighted Unit) := none
  /-- In braces, or a conditional part: statements and declarations. -/
  block : Bool := false
  /-- In braces, or a conditional part: the members of a structure or union. -/
  members : Option (List Param) := none
  /-- In braces, or a conditional part: the members of an enumeration. -/
  enumerators : Option (Weighted (List Enumerator)) := none

/-- A token, or the tokens between two matching brackets. -/
inductive Piece where
  /-- A token that is no bracket. -/
  | token (place : Nat) (t : Token)
  /-- A pair of brackets with the pieces inside, all its tokens, and what it can be read as. -/
  | group (place : Nat) (opening : Token) (inside : List Piece) (source : List Token)
    (readings : Readings)

namespace Piece

/-- The tokens of a piece. -/
def tokens : Piece → List Token
  | .token _ t => [t]
  | .group _ _ _ source _ => source

/-- The first token of a piece. -/
def first : Piece → Token
  | .token _ t => t
  | .group _ opening .. => opening

/-- The number of tokens before the piece. -/
def place : Piece → Nat
  | .token place _ | .group place .. => place

/-- Whether a piece stands before a place; all do if there is none. -/
def precedes (p : Piece) (n : Option Nat) : Bool :=
  match n with
  | some n => p.place < n
  | none => true

/-- Whether a piece follows the one before without a gap. -/
def adjoins (p : Piece) : Bool := p.first.adjoins

/-- The tokens of a sequence of pieces. -/
def flatten (ps : List Piece) : List Token := ps.flatMap tokens

/-- The source text of some pieces. -/
def sourceOf (ps : List Piece) : Text := Token.source (flatten ps)

/-- The source text of some pieces with every run of blanks as one space. -/
def spelling (ps : List Piece) : Text := Token.spelling (flatten ps)

/-- Whether a piece is a given punctuation character. -/
def isMark (c : Char) : Piece → Bool
  | .token _ t => t.isMark c
  | .group .. => false

/-- Whether a piece is one of some words. -/
def isOneOf (words : List Text) : Piece → Bool
  | .token _ t => t.isOneOf words
  | .group .. => false

/-- The text of a piece that is an identifier or a keyword. -/
def word? : Piece → Option Text
  | .token _ t => if t.isWord then some t.text else none
  | .group .. => none

/-- The kind of a piece that is a token. -/
def kind? : Piece → Option TokenKind
  | .token _ t => some t.kind
  | .group .. => none

/-- The readings of a group. -/
def readings : Piece → Readings
  | .token .. => {}
  | .group _ _ _ _ readings => readings

/-- Whether a piece is a group in a given kind of brackets. -/
def isGroup (opening : Char) : Piece → Bool
  | .token .. => false
  | .group _ o .. => o.isMark opening

/-- The inside of a group in a given kind of brackets. -/
def inside? (opening : Char) : Piece → Option (List Piece)
  | .token .. => none
  | .group _ o inside .. => if o.isMark opening then some inside else none

/-- Whether a piece is a conditional part. -/
def isConditional : Piece → Bool
  | .token .. => false
  | .group _ o .. => o.isDirective

/-- Whether a piece is a directive line that divides a conditional part. -/
def isDivider (p : Piece) : Bool := p.first.isDirective && Directive.divides p.first.text

/-- The parts of a conditional part, without the lines that divide it. -/
def branches (inside : List Piece) : List (List Piece) := partsBetween isDivider inside

/-- The inside of a conditional part. -/
def conditional? : Piece → Option (List Piece)
  | .token .. => none
  | .group _ o inside .. => if o.isDirective then some inside else none

end Piece

end Bindery.Header
