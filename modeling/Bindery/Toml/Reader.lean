import Bindery.Toml.Basic
import Bindery.Toml.Moment
import Bindery.Toml.Number
import Bindery.Toml.Quoted

/-!
# Reading TOML line by line

Every function here takes something off the front of a text and returns it with what it leaves.
Where parts follow each other, reading goes on only on a text that has become shorter. Brackets
are entered, and keys are dotted, only so deep.
-/

namespace Bindery.Toml

/-- How deep brackets may be nested, and how many parts a dotted key may have. -/
def depthLimit : Nat := 79

/-- A character of a key without quotes. -/
def isKeyPart (c : Char) : Bool := c.isAlphanum || c == '_' || c == '-'

/-- Take one part of a key, in quotes on one line or without. -/
def takeKey? (t : Text) : Option (Text × Text) :=
  match t with
  | [] => none
  | c :: rest =>
    if c == '"' then takeBasic? 0 rest
    else if c == Char.ofNat 39 then takeLiteral? rest
    else if isKeyPart c then some (t.takeWhile isKeyPart, t.dropWhile isKeyPart)
    else none

/-- Take a dotted key of at most so many parts, with spaces around each. -/
def takePath? : Nat → Text → Option (List Text × Text)
  | 0, _ => none
  | parts + 1, t => do
    let (key, rest) ← takeKey? (skipSpace t)
    match skipSpace rest with
    | '.' :: more => do
      let (keys, rest) ← takePath? parts more
      return (key :: keys, rest)
    | rest => return ([key], rest)

/-- The keys before the last one, and that. -/
def splitLast : List Text → List Text × Text
  | [] => ([], [])
  | [key] => ([], key)
  | key :: keys =>
    let (path, last) := splitLast keys
    (key :: path, last)

/-- A character of a value without quotes and brackets. -/
def isScalarPart (c : Char) : Bool :=
  c.isAlphanum || c == '_' || c == '-' || c == '+' || c == '.' || c == ':'

/-- The value that a word without quotes writes. -/
def scalar? (word : Text) : Option Value :=
  if word = ("true" : Text) then some (.boolean true)
  else if word = ("false" : Text) then some (.boolean false)
  else if isMoment word then some .moment
  else if isFloat word then some .float
  else (integer? word).map .integer

/-- Take a value without quotes and brackets. A date may have its time behind a space. -/
def takeScalar? (t : Text) : Option (Value × Text) := do
  let word := t.takeWhile isScalarPart
  let rest := t.dropWhile isScalarPart
  let value ← scalar? word
  match isDate word, rest with
  | true, ' ' :: c :: more =>
    if c.isDigit then
      if isClock ((c :: more).takeWhile isScalarPart) then
        some (.moment, (c :: more).dropWhile isScalarPart)
      else none
    else some (value, rest)
  | _, _ => some (value, rest)

/-- Take the items of an array behind its opening or a comma, with the closing; a comma may stand
behind the last item. -/
def takeItems? (takeValue? : Text → Option (Value × Text)) (t : Text) :
    Option (List Value × Text) :=
  match skipBlank t with
  | ']' :: rest => some ([], rest)
  | front => do
    let (item, rest) ← takeValue? front
    match skipBlank rest with
    | ']' :: rest => some ([item], rest)
    | ',' :: rest =>
      if rest.length < t.length then do
        let (items, rest) ← takeItems? takeValue? rest
        some (item :: items, rest)
      else none
    | _ => none
termination_by t.length

/-- Take a key, the equals sign and the value behind it. -/
def takePair? (takeValue? : Text → Option (Value × Text)) (t : Text) : Option (Pair × Text) := do
  let (keys, rest) ← takePath? depthLimit t
  match rest with
  | '=' :: rest => do
    let (value, rest) ← takeValue? (skipSpace rest)
    let (path, key) := splitLast keys
    return (⟨path, key, value⟩, skipSpace rest)
  | _ => none

/-- Take the pairs of a table in braces behind its opening or a comma, with the closing. -/
def takePairs? (takeValue? : Text → Option (Value × Text)) (t : Text) :
    Option (List Pair × Text) := do
  let (pair, rest) ← takePair? takeValue? t
  match rest with
  | '}' :: rest => some ([pair], rest)
  | ',' :: rest =>
    if rest.length < t.length then do
      let (pairs, rest) ← takePairs? takeValue? rest
      some (pair :: pairs, rest)
    else none
  | _ => none
termination_by t.length

/-- Take the pairs of a table in braces behind its opening, which may be none. -/
def takeBody? (takeValue? : Text → Option (Value × Text)) (t : Text) :
    Option (List Pair × Text) :=
  match skipSpace t with
  | '}' :: rest => some ([], rest)
  | rest => takePairs? takeValue? rest

end Bindery.Toml
