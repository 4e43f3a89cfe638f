import Bindery.Header.Token

/-!
# Numbers

A number is an integer in one of four bases or a decimal or hexadecimal fraction, its digits
perhaps in groups between apostrophes, and a name may follow it directly as its suffix.
-/

namespace Bindery.Header.Number

/-- Take the digits at the front; an apostrophe may stand between two of them. -/
def dropDigits (isDigit : Char → Bool) : Text → Text
  | [] => []
  | '\'' :: c :: t => if isDigit c then dropDigits isDigit t else '\'' :: c :: t
  | c :: t => if isDigit c then dropDigits isDigit t else c :: t

/-- What follows one or more digits at the front. -/
def digits? (isDigit : Char → Bool) : Text → Option Text
  | [] => none
  | c :: t => if isDigit c then some (dropDigits isDigit t) else none

/-- Skip an exponent at the front, if there is one. -/
def dropExponent (isSign : Char → Bool) : Text → Text
  | [] => []
  | c :: t =>
    if isSign c then
      let unsigned := match t with
        | '+' :: u | '-' :: u => u
        | u => u
      (digits? Char.isDigit unsigned).getD (c :: t)
    else c :: t

/-- Whether nothing or a suffix follows the digits. -/
def isSuffix : Text → Bool
  | [] => true
  | c :: t => (c.isAlpha || c == '_') && t.all Text.isWord

/-- The exponent of a decimal fraction. -/
def isDecimalSign (c : Char) : Bool := c == 'e' || c == 'E'

/-- The exponent of a hexadecimal fraction. -/
def isHexSign (c : Char) : Bool := c == 'p' || c == 'P'

/-- Skip what may follow the whole part of a number with the digits of a base: a point with more
digits and an exponent. The second part says whether anything of the kind is there. -/
def dropFraction (isDigit isSign : Char → Bool) (t : Text) : Text × Bool :=
  let behind := match t with
    | '.' :: u => (dropDigits isDigit u, true)
    | u => (u, false)
  let rest := dropExponent isSign behind.1
  (rest, behind.2 || rest.length < behind.1.length)

/-- Whether a text is a number that is not written in base ten or eight. -/
def isPrefixed (c : Char) (t : Text) : Bool :=
  if c == 'x' || c == 'X' then
    match digits? isHexDigit t with
    | some rest => isSuffix (dropFraction isHexDigit isHexSign rest).1
    | none => isSuffix (c :: t)
  else
    match digits? (fun d => d == '0' || d == '1') t with
    | some rest => isSuffix rest
    | none => isSuffix (c :: t)

/-- Whether a text is a number in base ten or eight; a whole number with a leading zero has octal
digits. -/
def isPlain (t : Text) : Bool :=
  let (rest, fractional) := dropFraction Char.isDigit isDecimalSign (dropDigits Char.isDigit t)
  match t with
  | '.' :: c :: u => c.isDigit && isSuffix (dropExponent isDecimalSign (dropDigits Char.isDigit u))
  | '0' :: _ =>
    if fractional then isSuffix rest
    else isSuffix (dropDigits (fun d => '0' ≤ d && d ≤ '7') t)
  | _ => isSuffix rest

/-- Whether a text that begins with a digit is a number with its suffix. -/
def isNumber (t : Text) : Bool :=
  match t with
  | '0' :: c :: u =>
    if c == 'x' || c == 'X' || c == 'b' || c == 'B' then isPrefixed c u else isPlain t
  | _ => isPlain t

/-- Whether a sign belongs to the number whose characters so far are given in reverse. -/
def awaitsExponent (read : Text) : Bool :=
  match read with
  | [] => false
  | c :: _ =>
    match read.reverse with
    | '0' :: 'x' :: _ | '0' :: 'X' :: _ => isHexSign c
    | _ => isDecimalSign c

end Bindery.Header.Number
