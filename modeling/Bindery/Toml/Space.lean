import Bindery.Text.Basic

/-!
# Spaces, comments and line ends

Inside a line there are spaces and tabs. A line ends with a line feed, which a carriage return may
precede, or with the text, and a comment may stand before that. Control characters stand nowhere.
-/

namespace Bindery.Toml

/-- A space or a tab. -/
def isSpace (c : Char) : Bool := c == ' ' || c == '\t'

/-- A character that may stand in a comment: any but the control characters, and the tab. -/
def isVisible (c : Char) : Bool := c == '\t' || (32 ≤ c.toNat && c.toNat != 127)

/-- Without the spaces at the front. -/
def skipSpace (t : Text) : Text := t.dropWhile isSpace

/-- Without a comment at the front. -/
def skipComment (t : Text) : Text :=
  match t with
  | '#' :: _ => t.dropWhile isVisible
  | _ => t

/-- What follows a line feed or a carriage return with a line feed. -/
def newline? : Text → Option Text
  | '\n' :: t => some t
  | '\r' :: '\n' :: t => some t
  | _ => none

/-- What follows the end of a line, which may hold spaces and a comment before. -/
def lineEnd? (t : Text) : Option Text :=
  match skipComment (skipSpace t) with
  | [] => some []
  | rest => newline? rest

/-- Without spaces, comments and line ends at the front; the flag says that a comment is open. -/
def skipBlankFrom (comment : Bool) : Text → Text
  | [] => []
  | '\n' :: t => skipBlankFrom false t
  | '\r' :: '\n' :: t => skipBlankFrom false t
  | c :: t =>
    if comment then if isVisible c then skipBlankFrom true t else c :: t
    else if isSpace c then skipBlankFrom false t
    else if c == '#' then skipBlankFrom true t
    else c :: t

/-- Without spaces, comments and line ends at the front. -/
def skipBlank (t : Text) : Text := skipBlankFrom false t

end Bindery.Toml
