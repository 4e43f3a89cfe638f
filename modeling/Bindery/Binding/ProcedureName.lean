import Bindery.Binding.Fault
import Bindery.Text.Line
import Bindery.TypeName

/-!
# Procedure names

A procedure reads as a method of its first argument. Its name comes from the C name in a sequence
of small steps, each on the whole name: constructors are named after what they make, endings that
only tell variants apart are dropped, and so is the name of the type that comes first. Accessors
then lose the word that says what they do.
-/

namespace Bindery

namespace ProcedureName

/-- What precedes the last place where `word` stands behind something and `ends` holds of the
rest. -/
def beforeLast? (word : Text) (ends : Text → Bool) : Text → Option Text
  | [] => none
  | c :: t =>
    match beforeLast? word ends t with
    | some left => some (c :: left)
    | none =>
      match Text.after? word t with
      | some rest => if ends rest then some [c] else none
      | none => none

/-- Change the first line that can be changed. -/
def changeLine (f : Text → Option Text) : List Text → List Text
  | [] => []
  | line :: lines =>
    match f line with
    | some changed => changed :: lines
    | none => line :: changeLine f lines

/-- Change the first line of a text that can be changed. -/
def onLine (f : Text → Option Text) (t : Text) : Text :=
  Text.unlines (changeLine f (t.splitOn '\n'))

/-- A name with `_create` in it belongs to a constructor, which is named after its type. -/
def ofConstructor (t : Text) : Text :=
  onLine (fun line => (beforeLast? "_create" (fun _ => true) line).map ("new" ++ ·)) t

/-- Drop the last ending that `word` begins. -/
def dropVariant (word : Text) (t : Text) : Text :=
  onLine (beforeLast? word (!·.isEmpty)) t

/-- What precedes the first place where `word` stands before something. -/
def beforeFirst? (word : Text) : Text → Option Text
  | [] => none
  | c :: t =>
    match Text.after? word (c :: t) with
    | some (_ :: _) => some []
    | _ => (beforeFirst? word t).map (c :: ·)

/-- The finished lines of a text, with their ends, and what follows them. -/
def lastLine (t : Text) : Text × Text :=
  let lead := (t.reverse.dropWhile (· != '\n')).reverse
  (lead, (t.reverse.takeWhile (· != '\n')).reverse)

/-- The ending of accessors that speak of a window. -/
def windowEnding : Text := "RenderWindow"

/-- An accessor that speaks of a window does not say so. -/
def dropWindow (t : Text) : Text :=
  match Text.before? windowEnding t with
  | some rest =>
    let line := (lastLine rest).2
    if (beforeFirst? "get" line).isSome || (beforeFirst? "set" line).isSome then rest else t
  | none => t

/-- The setter of a parameter that keeps its name. -/
def ownParameterSetter : Text := "Shader_setCurrentTextureParameter"

/-- The setters of parameters of different types have one name. -/
def mergeParameterSetters (t : Text) : Text :=
  if t = ownParameterSetter then t
  else
    match Text.before? "Parameter" t with
    | some rest =>
      let (lead, line) := lastLine rest
      match beforeFirst? "_set" line with
      | some left => lead ++ left ++ "_setParameter"
      | none => t
    | none => t

/-- The ending of procedures that take or give characters by their number. -/
def wideEnding (cName : Text) : Text :=
  if Text.occurs "unicode" (Text.lower cName) then "_U32" else []

/-- Drop the name of the type of the first parameter. -/
def dropReceiver (handles : Handles) (params : List Param) (t : Text) : Text :=
  match params with
  | [] => t
  | first :: _ =>
    (Text.after? (dereference (typeName handles [] first.type) ++ ['_']) t).getD t

end ProcedureName

open ProcedureName

/-- The name of a procedure, before it is looked at as an accessor. -/
def methodName (handles : Handles) (cName : Text) (params : List Param) :
    Except BindingFault Text := do
  let name ← bareName cName
  let name := dropVariant "With" (dropVariant "_from" (ofConstructor name))
  let name := mergeParameterSetters (dropWindow name) ++ wideEnding cName
  return identifierName (dropReceiver handles params name)

/-- How a procedure is called. -/
structure CallName where
  /-- The name. -/
  name : Text
  /-- Whether it is called as an assignment to the name. -/
  setter : Bool := false
  deriving DecidableEq, Repr

namespace CallName

/-- What `word` leaves of a name in which a capital follows it, beginning with a small letter. -/
def property? (word name : Text) : Option Text :=
  match Text.after? word name with
  | some (c :: rest) => if Text.isUpper c then some (Text.lowerFirst (c :: rest)) else none
  | _ => none

/-- Getters and predicates have one parameter, setters have two; they are called by the property
they read or write. -/
def ofMethod (name : Text) (params : Nat) : CallName :=
  if params = 1 then ⟨((property? "get" name) <|> (property? "is" name)).getD name, false⟩
  else if params = 2 then
    match property? "set" name with
    | some property => ⟨property, true⟩
    | none => ⟨name, false⟩
  else ⟨name, false⟩

/-- A property does not begin with the word for its representation. -/
def dropWide (call : CallName) : CallName :=
  match Text.after? "unicode" call.name with
  | some (c :: rest) => { call with name := Text.lowerFirst (c :: rest) }
  | _ => call

end CallName

end Bindery
