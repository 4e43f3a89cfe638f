import Bindery.Header.Modifier

/-!
# Type specifiers

The base type of a declaration: a tagged type with its body as far as it is given, a number type
of several words, a type known by its name, or the type of an operand.
-/

namespace Bindery.Header

open Reader

/-- The base type of a declaration. -/
inductive BaseType where
  /-- A type known by its spelling alone. -/
  | plain (spelling : Text)
  /-- A structure, or a union, with its tag and its fields as far as they are given. -/
  | record (isUnion : Bool) (tag : Option Text) (fields : Option (List Param)) (spelling : Text)
  /-- An enumeration with its tag and its members as far as they are given. -/
  | enumeration (tag : Option Text) (items : Option (List Enumerator)) (spelling : Text)
  deriving DecidableEq, Repr

namespace BaseType

/-- The tag of a tagged type, and the whole spelling of any other. -/
def name : BaseType → Text
  | .plain spelling => spelling
  | .record _ tag _ spelling => tag.getD spelling
  | .enumeration tag _ spelling => tag.getD spelling

end BaseType

/-- The name of a tagged type as it is written. -/
def tag (g : Phrases) (reserved : List Text) : Reader Text := do
  let (_, ps) ← withSource (namedType g reserved)
  return Piece.sourceOf ps

/-- One base of a structure. -/
def baseClass (g : Phrases) : Reader Unit := do
  skip (dropAll dropBracketAttributes?)
  skip fun ps => ps.dropWhile (·.isOneOf ["public", "protected", "private", "virtual"])
  namedType g []
  let _ ← optional (symbol "...")

/-- The bases of a structure. -/
def baseClasses (g : Phrases) : Reader Unit := do
  mark ':'
  let _ ← commas (baseClass g)

/-- What may stand between the word that begins a structure and its name. -/
def recordPrelude : Reader Unit := do
  skip (dropAll fun ps => dropAttribute? ps <|> dropAlignment? ps)
  skip (dropOptional dropExport?)
  skip (dropAll dropBracketAttributes?)

/-- The tag and the fields of a structure, a union or a class. -/
def recordParts (g : Phrases) : Reader (Option Text × Option (List Param)) := do
  recordPrelude
  let parts ← (do
      let name ← optional (tag g Keyword.records)
      let _ ← optional (word Keyword.closures)
      let _ ← optional (baseClasses g)
      let fields ← group '{' fun r => r.members.map fun fields => ⟨fields, 0⟩
      return (name, some fields))
    <|> (do
      let name ← tag g Keyword.records
      check fun ps => !ps.head?.any (·.isOneOf Keyword.closures)
      return (some name, none))
  skip (dropOptional dropAttribute?)
  return parts

/-- A number type of several words, of which at least one gives a size. With `open_` set, its last
word may be left to be a name. -/
def sizedType (reserved : List Text) (open_ : Bool) : Reader Unit :=
  (do
    sizes true
    let _ ← qualifiers
    core (Keyword.parameters ++ Keyword.declarators) <|>
      check fun ps => open_ || !ps.head?.any (·.isOneOf Keyword.primitives)
    sizes false) <|>
  (do
    core reserved
    sizes true)
where
  /-- Words that give a size, at least one if the flag says so. -/
  sizes (required : Bool) : Reader Unit := fun ps =>
    let all := ps.takeWhile (·.isOneOf Keyword.sizes)
    let rest := ps.dropWhile (·.isOneOf Keyword.sizes)
    let least := if required then 1 else 0
    (if least ≤ all.length then [⟨(), 0, rest⟩] else []) ++
      match all.getLast? with
      | some last => if open_ && least < all.length then [⟨(), 0, last :: rest⟩] else []
      | none => []
  /-- The type that is given a size. -/
  core (reserved : List Text) : Reader Unit :=
    word Keyword.primitives <|> do
      let _ ← name reserved
      weigh (-1)

/-- The base of an enumeration. -/
def enumerationBase (g : Phrases) : Reader Unit := do
  mark ':'
  namedType g (Keyword.types) <|> sizedType Keyword.types false <|> word Keyword.primitives

/-- The tag and the members of an enumeration. -/
def enumerationParts (g : Phrases) : Reader (Option Text × Option (List Enumerator)) := do
  let _ ← optional (word ["class", "struct"])
  let parts ← (do
      let items ← group '{' (·.enumerators)
      return (none, some items))
    <|> (do
      let name ← tag g Keyword.enumerations
      let _ ← optional (enumerationBase g)
      let items ← optional (group '{' (·.enumerators))
      return (some name, items))
  skip (dropOptional dropAttribute?)
  return parts

/-- A type that is no tagged type. -/
def plainType (g : Phrases) (reserved : List Text) (open_ : Bool) : Reader Unit :=
  sizedType reserved open_
    <|> word Keyword.primitives
    <|> namedType g reserved
    <|> (do
      word ["typename"]
      g.specifier
      weigh (-1))
    <|> word ["auto"]
    <|> typeOfOperand
    <|> do
      word ["decltype"]
      groupOf '(' fun inside =>
        match inside with
        | [p] => p.isOneOf ["auto"]
        | _ => false

/-- A tagged type. -/
def taggedType (g : Phrases) : Reader (Text → BaseType) :=
  (do
    word ["struct"]
    let (name, fields) ← recordParts g
    return .record false name fields)
  <|> (do
    word ["union"]
    let (name, fields) ← recordParts g
    return .record true name fields)
  <|> (do
    word ["class"]
    let _ ← recordParts g
    return .plain)
  <|> do
    word ["enum"]
    let (name, items) ← enumerationParts g
    return .enumeration name items

/-- A base type. A type may be a condition on the one that is deduced. -/
def baseType (g : Phrases) (reserved : List Text) (open_ : Bool) : Reader BaseType :=
  settle do
    let (base, ps) ← withSource (do
      let base ← taggedType g <|> (do plainType g reserved open_; return .plain)
      (do word ["auto"]; return .plain) <|> pure base)
    return base (Piece.spelling ps)

end Bindery.Header
