import Bindery.Text.Integer
import Bindery.Toml.Space

/-!
# Text in quotes

There are four ways to quote: in double quotes, where a backslash escapes, or in single quotes,
where every character stands for itself, and either on one line or, in three quotes, on several.
-/

namespace Bindery.Toml

/-- Put a character in front of a text that has been read. -/
def lead (c : Char) (read : Text × Text) : Text × Text := (c :: read.1, read.2)

/-- The character with the code point that so many hexadecimal digits give. -/
def codePoint? (digits : Nat) (t : Text) : Option Char := do
  let written := t.take digits
  let n ← if written.length = digits then Text.natural? 16 written else none
  if n.isValidChar then some (Char.ofNat n) else none

/-- The character that is escaped behind a backslash, and how many characters say so. -/
def escape? : Text → Option (Char × Nat)
  | 'b' :: _ => some (Char.ofNat 8, 1)
  | 't' :: _ => some ('\t', 1)
  | 'n' :: _ => some ('\n', 1)
  | 'f' :: _ => some (Char.ofNat 12, 1)
  | 'r' :: _ => some ('\r', 1)
  | '"' :: _ => some ('"', 1)
  | '\\' :: _ => some ('\\', 1)
  | 'u' :: t => (codePoint? 4 t).map (·, 5)
  | 'U' :: t => (codePoint? 8 t).map (·, 9)
  | _ => none

/-- Read up to a double quote on the same line: the text and what follows the quote. So many
characters still belong to an escape. -/
def takeBasic? (skip : Nat) : Text → Option (Text × Text)
  | [] => none
  | c :: t =>
    match skip with
    | n + 1 => takeBasic? n t
    | 0 =>
      if c == '"' then some ([], t)
      else if c == '\\' then do
        let (escaped, used) ← escape? t
        return lead escaped (← takeBasic? used t)
      else if isVisible c then do return lead c (← takeBasic? 0 t)
      else none

/-- Read up to a single quote on the same line. -/
def takeLiteral? : Text → Option (Text × Text)
  | [] => none
  | c :: t =>
    if c == Char.ofNat 39 then some ([], t)
    else if isVisible c then do return lead c (← takeLiteral? t)
    else none

/-- The number of the same characters at the front. -/
def countFront (c : Char) (t : Text) : Nat := (t.takeWhile (· == c)).length

/-- At three or more quotes a long text ends; up to two more than three belong to it. The quotes
that do, and what follows. -/
def close? (quote : Char) (t : Text) : Option (Text × Text) :=
  let n := countFront quote t
  if n < 3 then none
  else some (List.replicate (min (n - 3) 2) quote, t.drop (min n 5))

/-- The number of characters behind a backslash at the end of a line, up to the first one that is
neither a space nor a line end. -/
def continuation? (t : Text) : Option Nat :=
  (newline? (skipSpace t)).map fun rest => t.length - (skipEnds rest).length
where
  /-- Without spaces and line ends at the front. -/
  skipEnds : Text → Text
    | '\n' :: t => skipEnds t
    | '\r' :: '\n' :: t => skipEnds t
    | c :: t => if isSpace c then skipEnds t else c :: t
    | [] => []

/-- Read up to three double quotes. So many characters still belong to an escape. -/
def takeLongBasic? (skip : Nat) : Text → Option (Text × Text)
  | [] => none
  | c :: t =>
    match skip with
    | n + 1 => takeLongBasic? n t
    | 0 =>
      match close? '"' (c :: t) with
      | some found => some found
      | none =>
        if c == '\\' then
          match continuation? t with
          | some used => takeLongBasic? used t
          | none => do
            let (escaped, used) ← escape? t
            return lead escaped (← takeLongBasic? used t)
        else if c == '\r' then
          if t.head? == some '\n' then takeLongBasic? 0 t else none
        else if c == '\n' || isVisible c then do return lead c (← takeLongBasic? 0 t)
        else none

/-- Read up to three single quotes. -/
def takeLongLiteral? : Text → Option (Text × Text)
  | [] => none
  | c :: t =>
    match close? (Char.ofNat 39) (c :: t) with
    | some found => some found
    | none =>
      if c == '\r' then if t.head? == some '\n' then takeLongLiteral? t else none
      else if c == '\n' || isVisible c then do return lead c (← takeLongLiteral? t)
      else none

/-- Without one line end at the front. -/
def dropNewline (t : Text) : Text := (newline? t).getD t

/-- Read a text in quotes of any kind. -/
def takeQuoted? (t : Text) : Option (Text × Text) :=
  match Text.after? "\"\"\"" t, Text.after? "'''" t with
  | some rest, _ => takeLongBasic? 0 (dropNewline rest)
  | _, some rest => takeLongLiteral? (dropNewline rest)
  | none, none =>
    match t with
    | c :: rest =>
      if c == '"' then takeBasic? 0 rest
      else if c == Char.ofNat 39 then takeLiteral? rest
      else none
    | [] => none

end Bindery.Toml
