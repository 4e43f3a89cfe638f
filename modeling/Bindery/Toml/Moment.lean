import Bindery.Text.Integer

/-!
# Dates and times

A date is a day of the calendar; a time of day goes down to the second or below it. Together they
are a moment, which may say how far its clock is from universal time.
-/

namespace Bindery.Toml

/-- Take so many decimal digits that write a number between two others. -/
def takeNumber? (digits low high : Nat) (t : Text) : Option (Nat × Text) := do
  let written := t.take digits
  let n ← if written.length = digits then Text.natural? 10 written else none
  if low ≤ n ∧ n ≤ high then some (n, t.drop digits) else none

/-- Whether a year has a leap day. -/
def isLeapYear (year : Nat) : Bool := year % 4 == 0 && (year % 100 != 0 || year % 400 == 0)

/-- The number of days of a month. -/
def daysIn (year month : Nat) : Nat :=
  if month = 2 then if isLeapYear year then 29 else 28
  else if [4, 6, 9, 11].contains month then 30
  else 31

/-- What follows a date. -/
def afterDate? (t : Text) : Option Text := do
  let (year, t) ← takeNumber? 4 0 9999 t
  let (month, t) ← takeNumber? 2 1 12 (← Text.after? ['-'] t)
  let (_, t) ← takeNumber? 2 1 (daysIn year month) (← Text.after? ['-'] t)
  return t

/-- What follows a time of day. -/
def afterTime? (t : Text) : Option Text := do
  let (_, t) ← takeNumber? 2 0 23 t
  let (_, t) ← takeNumber? 2 0 59 (← Text.after? [':'] t)
  let (_, t) ← takeNumber? 2 0 60 (← Text.after? [':'] t)
  match t with
  | '.' :: c :: rest => if c.isDigit then some (rest.dropWhile Char.isDigit) else some t
  | _ => some t

/-- Whether a text is the distance of a clock from universal time. -/
def isOffset (t : Text) : Bool :=
  match t with
  | ['Z'] | ['z'] => true
  | '+' :: t | '-' :: t =>
    (do
      let (_, t) ← takeNumber? 2 0 23 t
      let (_, t) ← takeNumber? 2 0 59 (← Text.after? [':'] t)
      return t) == some []
  | _ => false

/-- Whether a text is a date and nothing else. -/
def isDate (t : Text) : Bool := afterDate? t == some []

/-- Whether a text is a time of day, perhaps with a distance behind it. -/
def isClock (t : Text) : Bool :=
  match afterTime? t with
  | some rest => rest.isEmpty || isOffset rest
  | none => false

/-- Whether a text is a date, a time of day or both, joined by a letter. -/
def isMoment (t : Text) : Bool :=
  match afterDate? t with
  | some [] => true
  | some (c :: rest) => (c == 'T' || c == 't') && isClock rest
  | none => afterTime? t == some []

end Bindery.Toml
