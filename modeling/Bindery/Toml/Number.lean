import Bindery.Text.Integer

/-!
# Numbers

Digits may be grouped by single underscores. A whole number has to fit into 64 bits; it has no
needless zero in front unless it is written in another base. A number with a fraction or an
exponent has to be smaller than the largest double, but it may lie below all of them.
-/

namespace Bindery.Toml

/-- The digits of a base with single underscores between them, without these. -/
def digits? (base : Nat) (t : Text) : Option Text :=
  let groups := t.splitOn '_'
  if groups.all fun g => !g.isEmpty && g.all fun c => (Text.digit? base c).isSome then
    some groups.flatten
  else none

/-- The sign in front of a number, if there is one: whether it is a minus, and the rest. -/
def takeSign : Text → Bool × Text
  | '-' :: t => (true, t)
  | '+' :: t => (false, t)
  | t => (false, t)

/-- The value of decimal digits without a needless zero in front. -/
def decimal? (t : Text) : Option Nat :=
  match t with
  | '0' :: _ :: _ => none
  | _ => (digits? 10 t).bind (Text.natural? 10)

/-- A whole number in another base, by the mark in front of it. -/
def based? (mark : Text) (base : Nat) (t : Text) : Option Int := do
  let digits ← digits? base (← Text.after? mark t)
  return Int.ofNat (← Text.natural? base digits)

/-- The value of a whole number. -/
def integer? (t : Text) : Option Int :=
  let (negative, magnitude) := takeSign t
  let value :=
    based? "0x" 16 t <|> based? "0o" 8 t <|> based? "0b" 2 t <|>
      (decimal? magnitude).map fun n => if negative then -(n : Int) else n
  value.filter Text.fitsSigned

/-- The first number that no double comes near: halfway between the largest one and the next power
of two. -/
def doubleLimit : Nat := Nat.pow 2 1024 - Nat.pow 2 970

/-- Whether a number of digits with a decimal exponent is below that limit. Numbers far away from
it are told by their length. -/
def isFinite (digits : Nat) (exponent : Int) : Bool :=
  if digits = 0 then true
  else
    let size := (Nat.toDigits 10 digits).length + exponent
    if size > 310 then false
    else if size < 300 then true
    else if exponent < 0 then digits < doubleLimit * Nat.pow 10 (-exponent).toNat
    else digits * Nat.pow 10 exponent.toNat < doubleLimit

/-- The part of a number before its exponent: its digits as one whole number, how many of them
stand behind the point, and whether there is a point. -/
def mantissa? (t : Text) : Option (Nat × Nat × Bool) :=
  match t.splitOn '.' with
  | [whole] => (decimal? whole).map (·, 0, false)
  | [whole, fraction] => do
    let n ← decimal? whole
    let fraction ← digits? 10 fraction
    let f ← Text.natural? 10 fraction
    return (n * Nat.pow 10 fraction.length + f, fraction.length, true)
  | _ => none

/-- The exponent of a number, with its sign. -/
def exponent? (t : Text) : Option Int := do
  let (negative, magnitude) := takeSign t
  let n ← Text.natural? 10 (← digits? 10 magnitude)
  return if negative then -(n : Int) else n

/-- Whether a text is a number with a fraction or an exponent, or one of the two special ones. -/
def isFloat (t : Text) : Bool :=
  let (negative, magnitude) := takeSign t
  if magnitude = ("inf" : Text) || magnitude = ("nan" : Text) then true
  else
    match magnitude.splitOnP (fun c => c == 'e' || c == 'E') with
    | [number] =>
      match mantissa? number with
      | some (n, places, true) => negative || isFinite n (-(places : Int))
      | _ => false
    | [number, power] =>
      match mantissa? number, exponent? power with
      | some (n, places, _), some e => negative || isFinite n (e - places)
      | _, _ => false
    | _ => false

end Bindery.Toml
