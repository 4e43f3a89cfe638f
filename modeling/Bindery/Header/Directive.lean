import Bindery.Header.Token

/-!
# Directive lines

A directive line begins with a hash sign and a name. Some directives open, divide or close a
conditional part of the header; of the others the text behind the name is its argument, and the
line has to end where the argument ends.
-/

namespace Bindery.Header.Directive

/-- The name of a directive line. -/
def nameOf (line : Text) : Text :=
  ((line.drop 1).dropWhile fun c => c == ' ' || c == '\t').takeWhile Text.isAsciiWord

/-- What follows the name of a directive line. -/
def behindName (line : Text) : Text :=
  ((line.drop 1).dropWhile fun c => c == ' ' || c == '\t').dropWhile Text.isAsciiWord

/-- Names of directives that open a conditional. -/
def openers : List Text := ["if", "ifdef", "ifndef"]

/-- Names of directives that divide a conditional. -/
def dividers : List Text := ["else", "elif", "elifdef", "elifndef"]

/-- Names of directives that stand alone and take nothing. -/
def bare : List Text := ["else", "endif"]

/-- Whether a line opens a conditional. -/
def opens (line : Text) : Bool := openers.contains (nameOf line)

/-- Whether a line divides a conditional. -/
def divides (line : Text) : Bool := dividers.contains (nameOf line)

/-- Whether a line closes a conditional. -/
def closes (line : Text) : Bool := nameOf line == Text.ofString "endif"

/-- Skip a comment whose opening has been read. -/
def dropComment : Text → Text
  | '*' :: '/' :: t => t
  | _ :: t => dropComment t
  | [] => []

/-- What follows a comment at the front, if there is one. -/
def behindComment? : Text → Option Text
  | '/' :: '*' :: t => some (dropComment t)
  | '/' :: '/' :: _ => some []
  | _ => none

/-- Skip blanks and comments, at most so many. -/
def dropGaps : Nat → Text → Text
  | 0, t => t
  | n + 1, t =>
    let u := t.dropWhile isSpace
    match behindComment? u with
    | some v => dropGaps n v
    | none => u

/-- Skip blanks and comments. -/
def dropGap (t : Text) : Text := dropGaps t.length t

/-- Skip comments, and blanks only before another comment; blanks at the end stay. -/
def dropComments : Nat → Text → Text
  | 0, t => t
  | n + 1, t =>
    match behindComment? (t.dropWhile isSpace) with
    | some u => dropComments n u
    | none => t

/-- Skip an argument: all up to a comment in slash and star. -/
def dropArgument : Text → Text
  | [] => []
  | '/' :: '*' :: t => '/' :: '*' :: t
  | '/' :: _ :: t => dropArgument t
  | _ :: t => dropArgument t

/-- Skip a name; nothing is given if there is none. -/
def dropName? : Text → Option Text
  | [] => none
  | c :: t => if isNameStart c then some (t.dropWhile isNamePart) else none

/-- Skip the names in parentheses that may directly follow the name of a macro. -/
def dropParameters? : Text → Option Text
  | '(' :: t =>
    match t.dropWhile (· != ')') with
    | _ :: rest =>
      let isInside (c : Char) := isNamePart c || isSpace c || c == ',' || c == '.'
      if (t.takeWhile (· != ')')).all isInside then some rest else none
    | [] => none
  | t => some t

/-- Whether nothing but an argument follows, and nothing but comments follows that. -/
def isArgument (t : Text) : Bool :=
  match dropGap t with
  | [] => t.getLast?.all fun c => !isSpace c
  | u => (dropComments t.length (dropArgument u)).isEmpty

/-- Skip the place of another header: in quotes, in angle brackets or behind a name. -/
def dropPlace? : Text → Option Text
  | '"' :: t => (t.dropWhile (· != '"')).tail?
  | '<' :: t => (t.dropWhile (· != '>')).tail?
  | t => dropName? t

/-- Whether a line that is no part of a conditional is well formed. -/
def isPlain (line : Text) : Bool :=
  let name := nameOf line
  if name == Text.ofString "define" then
    match (dropName? (dropGap (behindName line))).bind dropParameters? with
    | some t => isArgument t
    | none => false
  else if name == Text.ofString "include" then
    match dropPlace? (dropGap (behindName line)) with
    | some t => (dropComments t.length t).isEmpty
    | none => false
  else !name.isEmpty && isArgument (behindName line)

/-- Names of directives that open or divide a conditional by whether a name is defined. -/
def inquiries : List Text := ["ifdef", "ifndef", "elifdef", "elifndef"]

/-- Names of directives that open or divide a conditional by a condition. -/
def conditions : List Text := ["if", "elif"]

/-- Whether a line asks for one name and nothing more. -/
def isInquiry (line : Text) : Bool :=
  (dropName? (dropGap (behindName line))).any fun t => (dropGap t).isEmpty

/-- The condition of a line that opens or divides a conditional by one. -/
def condition? (line : Text) : Option Text :=
  if conditions.contains (nameOf line) then some (behindName line) else none

/-- The part of a line in which its argument stands, for lines that may have one. -/
def argumentPlace? (line : Text) : Option Text :=
  let name := nameOf line
  if name == Text.ofString "define" then
    (dropName? (dropGap (behindName line))).bind dropParameters?
  else if name == Text.ofString "include" || openers.contains name || dividers.contains name then
    none
  else some (behindName line)

/-- Whether the argument of a line has begun. -/
def hasArgument (line : Text) : Bool := (argumentPlace? line).any fun t => !(dropGap t).isEmpty

/-- Whether a line goes on behind its line feed: it does while its argument has not begun and a
blank has been read where it would stand. -/
def wantsArgument (line : Text) : Bool :=
  (argumentPlace? line).any fun t => (dropGap t).isEmpty && t.getLast?.any isSpace

end Bindery.Header.Directive
