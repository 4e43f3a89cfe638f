import Bindery.Header.Statement

/-!
# Members of structures and enumerations

The fields of a structure or union, and the named values of an enumeration. Functions and types
among the members of a structure are no fields, and what stands in a conditional part is left out.
-/

namespace Bindery.Header

open Reader

/-- The declarator of a field, with what may follow it. -/
def fieldDeclarator (g : Phrases) : Reader Declarator := settle do
  let d ← declarator g .field
  pure () <|> (do mark ':'; let _ ← g.expression false) <|> group '{' (·.initializer) <|> do
    mark '='
    check fun ps => !ps.head?.any (·.isOneOf ["default"])
    (do let _ ← g.expression false) <|> group '{' (·.initializer)
  return d

/-- A declaration of fields; without a declarator it declares one field that has no name. -/
def fields (g : Phrases) : Reader (List Param) := do
  let s ← specifiers g Keyword.members
  let ds ← commas (fieldDeclarator g) <|> pure []
  skip (dropOptional dropAttribute?)
  mark ';'
  return if ds.isEmpty then [paramOf s {}] else ds.map fun d => paramOf s d.shape

/-- A function among the members of a structure. -/
def method (g : Phrases) : Reader Unit :=
  functionDefinition g Keyword.members .field
  <|> (do
    let _ ← specifiers g Keyword.members
    let _ ← declarator g .field
    bodyReplacement)
  <|> constructorDefinition g Keyword.members
  <|> (do constructorHead g Keyword.members; mark ';')
  <|> conversionDefinition g
  <|> conversionDeclaration g

/-- One member of a structure or union, with the fields that it declares. -/
def member (g : Phrases) : Reader (List Param) :=
  fields g <|> do
    method g
      <|> (do word ["public", "private", "protected"]; mark ':')
      <|> friendDeclaration g
      <|> templateDeclaration g
      <|> aliasDeclaration g
      <|> usingDeclaration g
      <|> (do let _ ← typeDefinition g)
      <|> assertion g
      <|> directive
      <|> conditional (·.members.isSome)
      <|> mark ';'
    return []

/-- Read the members between braces. -/
def members? (g : Phrases) (inside : List Piece) : Option (List Param) :=
  (all (member g) inside).map fun w => w.value.flatten

/-- A named value of an enumeration. -/
def enumerator (g : Phrases) : Reader Enumerator := settle do
  let n ← name []
  (do
    mark '='
    let (_, ps) ← withSource (g.expression false)
    return ⟨n, some (Piece.spelling ps)⟩)
  <|> pure ⟨n, none⟩

/-- A comma, or the end. -/
def commaOrEnd : Reader Unit := mark ',' <|> check List.isEmpty

/-- One entry between the braces of an enumeration, with the value that it names. In a conditional
part a comma stands behind every value; only at the end it may be left out of all of them. -/
def enumerationEntry (g : Phrases) : Reader (Option Enumerator) :=
  (do
    let e ← enumerator g
    commaOrEnd
    return some e)
  <|> (do
    directive
    commaOrEnd
    return none)
  <|> do
    conditional (·.enumerators.isSome) <|> do
      piece fun p => p.conditional?.bind fun inside =>
        if (Piece.branches inside).all fun part => (all (enumerator g) part).isSome then some ()
        else none
      check List.isEmpty
    return none

/-- Read the entries of an enumeration. -/
def enumerators? (g : Phrases) (inside : List Piece) : Option (Weighted (List Enumerator)) :=
  (all (enumerationEntry g) inside).map fun w => ⟨w.value.filterMap id, w.weight⟩

end Bindery.Header
