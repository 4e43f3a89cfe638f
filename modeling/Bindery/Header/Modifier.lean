import Bindery.Header.Name

/-!
# Modifiers and attributes

Words and attributes around the base type of a declaration. As many are taken as there are, so
these are functions and not readers. Whether `const` is among them is all that is kept.
-/

namespace Bindery.Header

/-- Take from the front as often as possible, at most so many times. -/
def takeRepeatedly {α : Type} (take? : List Piece → Option (α × List Piece)) :
    Nat → List Piece → List α × List Piece
  | 0, ps => ([], ps)
  | n + 1, ps =>
    match take? ps with
    | none => ([], ps)
    | some (a, rest) =>
      let (as, rest) := takeRepeatedly take? n rest
      (a :: as, rest)

/-- Take from the front as often as possible. -/
def takeAll {α : Type} (take? : List Piece → Option (α × List Piece)) (ps : List Piece) :
    List α × List Piece :=
  takeRepeatedly take? ps.length ps

/-- Skip as often as possible what a function takes from the front. -/
def dropAll (drop? : List Piece → Option (List Piece)) (ps : List Piece) : List Piece :=
  (takeAll (fun qs => (drop? qs).map ((), ·)) ps).2

/-- Skip what a function takes from the front, if it does. -/
def dropOptional (drop? : List Piece → Option (List Piece)) (ps : List Piece) : List Piece :=
  (drop? ps).getD ps

/-- Skip an attribute in double parentheses. -/
def dropAttribute? : List Piece → Option (List Piece)
  | p :: q :: ps =>
    if p.isOneOf Keyword.attributes then
      match q.inside? '(' with
      | some [inner] => if inner.readings.arguments.isSome then some ps else none
      | _ => none
    else none
  | _ => none

/-- Skip a declaration of how what is declared is exported. -/
def dropExport? : List Piece → Option (List Piece)
  | p :: q :: ps =>
    if p.isOneOf ["__declspec"] then
      match q.inside? '(' with
      | some [inner] => if inner.word?.isSome then some ps else none
      | _ => none
    else none
  | _ => none

/-- One attribute between double brackets. -/
def bracketAttribute : Reader Unit := do
  let _ ← Reader.name []
  let _ ← Reader.optional do
    colons
    let _ ← Reader.name []
  let _ ← Reader.optional (Reader.group '(' (·.arguments))

/-- Skip attributes in double brackets. -/
def dropBracketAttributes? : List Piece → Option (List Piece)
  | .group _ o [.group _ i inside innerSource _] source _ :: ps =>
    let closed := innerSource.length + 2 == source.length && (source.getLast?.any Token.adjoins)
    if o.isMark '[' && i.isMark '[' && i.adjoins && closed && !inside.isEmpty &&
        (Reader.list false bracketAttribute inside).isSome then some ps
    else none
  | _ => none

/-- Skip an alignment. -/
def dropAlignment? : List Piece → Option (List Piece)
  | p :: q :: ps =>
    if p.isOneOf Keyword.alignments &&
        (q.readings.expression.isSome || q.readings.typeName.isSome) then some ps
    else none
  | _ => none

/-- Take a qualifier; the flag says that it is `const`. -/
def takeQualifier? (ps : List Piece) : Option (Bool × List Piece) :=
  match ps with
  | [] => none
  | p :: rest =>
    if p.isOneOf Keyword.qualifiers then some (p.isOneOf ["const"], rest)
    else (dropAlignment? ps).map (false, ·)

/-- Take a modifier of a declaration; the flag says that it is `const`. -/
def takeModifier? (ps : List Piece) : Option (Bool × List Piece) :=
  takeQualifier? ps <|>
    (match ps with
      | p :: rest => if p.isOneOf Keyword.storages then some (false, rest) else none
      | [] => none) <|>
    ((dropAttribute? ps <|> dropExport? ps <|> dropBracketAttributes? ps).map (false, ·))

/-- The modifiers at the front: for each whether it is `const`. -/
def modifiers : Reader (List Bool) := fun ps =>
  let (taken, rest) := takeAll takeModifier? ps
  [⟨taken, 0, rest⟩]

/-- The qualifiers at the front: for each whether it is `const`. -/
def qualifiers : Reader (List Bool) := fun ps =>
  let (taken, rest) := takeAll takeQualifier? ps
  [⟨taken, 0, rest⟩]

/-- Skip the attributes in double parentheses at the front. -/
def attributes : Reader Unit := Reader.skip (dropAll dropAttribute?)

/-- Skip a qualifier of a pointer. -/
def dropPointerQualifier? (ps : List Piece) : Option (List Piece) :=
  match ps with
  | [] => none
  | p :: rest => if p.isOneOf Keyword.pointers then some rest else none

/-- The star of a pointer with its qualifiers. -/
def pointerMark : Reader Unit := do
  Reader.mark '*'
  Reader.skip (dropAll dropPointerQualifier?)
  let _ ← qualifiers

/-- A pointer to a member, behind the scope of its class. -/
def memberPointer : Reader Unit := do
  pointerMark
  Reader.weigh 1
  let _ ← Reader.name Keyword.definitions

/-- The mark of a reference. -/
def referenceMark : Reader Unit :=
  Reader.symbol "&&" <|> do
    Reader.mark '&'
    Reader.check fun ps => !ps.head?.any fun p => p.isMark '&' && p.adjoins

end Bindery.Header
