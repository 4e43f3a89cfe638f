import Bindery.Source.Span
import Bindery.Text.Blank
import Bindery.Text.Word
import Bindery.Text.Table.Name

/-!
# Tokens of a C header

A token keeps the text between it and the token before, so that the source text of any run of
tokens, and the place of each, can be told from the tokens alone. A directive line is one token.
-/

namespace Bindery.Header

/-- What a token is made of. -/
inductive TokenKind where
  /-- An identifier or a keyword. -/
  | word
  /-- A number, with the suffix that may follow it. -/
  | number
  /-- Text in double quotes, with what may stand directly before and behind it. -/
  | text
  /-- A character in single quotes, with what may stand directly before and behind it. -/
  | character
  /-- A single punctuation character. -/
  | mark
  /-- A directive line; the flag says that its end has been seen. -/
  | directive (ended : Bool)
  /-- Characters that no token begins with, or a token that breaks off. -/
  | stray
  deriving DecidableEq, Repr

/-- One token. -/
structure Token where
  /-- What it is made of. -/
  kind : TokenKind
  /-- Its characters. -/
  text : Text
  /-- The blanks and comments between the token before and this one. -/
  gap : Text
  deriving DecidableEq, Repr

/-- A character that separates tokens and is part of none. -/
def isSpace (c : Char) : Bool := (9 ≤ c.toNat && c.toNat ≤ 13) || c == ' '

namespace Token

/-- The token without the gap before it. -/
def withoutGap (t : Token) : Token := { t with gap := [] }

/-- The number of bytes that the token and the gap before it take up. -/
def width (t : Token) : Nat := Text.byteSize t.gap + Text.byteSize t.text

/-- The number of bytes that some tokens and the gaps before them take up. -/
def widthOf : List Token → Nat
  | [] => 0
  | t :: ts => t.width + widthOf ts

@[simp] theorem widthOf_append (ts us : List Token) :
    widthOf (ts ++ us) = widthOf ts + widthOf us := by
  induction ts with
  | nil => simp [widthOf]
  | cons t ts ih => simp [widthOf, ih, Nat.add_assoc]

@[simp] theorem widthOf_reverse (ts : List Token) : widthOf ts.reverse = widthOf ts := by
  induction ts with
  | nil => rfl
  | cons t ts ih => simp [widthOf, ih, Nat.add_comm]

/-- The gap before some tokens takes up what they take up more than without it. -/
theorem byteSize_gap_add_widthOf (t : Token) (ts : List Token) :
    Text.byteSize t.gap + widthOf (t.withoutGap :: ts) = widthOf (t :: ts) := by
  simp [widthOf, width, withoutGap, Nat.add_assoc]

/-- From the first to the last of some tokens, where the gap before the first one begins at an
offset. -/
def spanFrom (offset : Nat) : List Token → Span
  | [] => ⟨offset, offset⟩
  | t :: ts => ⟨offset + Text.byteSize t.gap, offset + widthOf (t :: ts)⟩

/-- Tokens further on make up the same range further on. -/
theorem spanFrom_add (offset n : Nat) (ts : List Token) :
    spanFrom (offset + n) ts = (spanFrom offset ts).shift n := by
  cases ts with
  | nil => rfl
  | cons t ts =>
    simp [spanFrom, Span.shift]
    omega

/-- Whether the token is a given punctuation character. -/
def isMark (c : Char) (t : Token) : Bool := t.kind == .mark && t.text == [c]

/-- Whether the token is an identifier or a keyword. -/
def isWord (t : Token) : Bool := t.kind == .word

/-- Whether the token is one of some words. -/
def isOneOf (words : List Text) (t : Token) : Bool := t.isWord && words.contains t.text

/-- Whether the token is a given word. -/
def isTheWord (word : Text) (t : Token) : Bool := t.isWord && t.text == word

/-- Whether the token is a directive line. -/
def isDirective (t : Token) : Bool :=
  match t.kind with
  | .directive _ => true
  | _ => false

/-- Whether the token follows the one before without a gap. -/
def adjoins (t : Token) : Bool := t.gap.isEmpty

/-- Whether a comment stands directly before the token. -/
def followsComment (t : Token) : Bool := t.gap.contains '/'

/-- Whether a token is short enough to count as one too many before a semicolon counts as
missing. -/
def isShort (t : Token) : Bool := Text.byteSize t.text < 10

/-- The source text from the first to the last of some tokens. -/
def source : List Token → Text
  | [] => []
  | t :: ts => t.text ++ ts.flatMap fun u => u.gap ++ u.text

/-- The source text of some tokens with every run of blanks as one space. -/
def spelling (ts : List Token) : Text := Text.normalize (source ts)

end Token

/-- The parts of a list between the members that have a property; there is one part more than there
are such members. -/
def partsBetween {α : Type} (f : α → Bool) : List α → List (List α)
  | [] => [[]]
  | a :: as =>
    if f a then [] :: partsBetween f as
    else
      match partsBetween f as with
      | [] => [[a]]
      | part :: parts => (a :: part) :: parts

/-- A character that an identifier begins with. -/
def isNameStart (c : Char) : Bool :=
  if c.toNat < 128 then c.isAlpha || c == '_' || c == '$'
  else Text.inIntervals Text.nameStartIntervals c.toNat

/-- A character that an identifier goes on with. -/
def isNamePart (c : Char) : Bool :=
  if c.toNat < 128 then c.isAlphanum || c == '_' || c == '$'
  else Text.inIntervals Text.namePartIntervals c.toNat

/-- A hexadecimal digit. -/
def isHexDigit (c : Char) : Bool :=
  c.isDigit || ('a' ≤ c && c ≤ 'f') || ('A' ≤ c && c ≤ 'F')

/-- A punctuation character of the language. -/
def isPunctuation (c : Char) : Bool := Text.ofString "()[]\x7b\x7d;,*&<>=+-|^~!%?:./" |>.contains c

end Bindery.Header
