import Bindery.Binding.Fault
import Bindery.Documentation.Corpus
import Bindery.Text.Case
import Bindery.Text.Integer

/-!
# Markers

An enumeration that is named but has no members marks a place in the header. `doc7` stands before
the declaration that block 7 documents, and `lib_Module` before the declarations of a module.
-/

namespace Bindery

/-- What a marker says. -/
inductive Marker where
  /-- The next declaration is documented by the block with a number. -/
  | block (number : Nat)
  /-- The declarations from here on belong to a module, which is announced by a banner. -/
  | destination (key banner : Text)
  deriving DecidableEq, Repr

namespace Marker

/-- The beginning of the name of a marker for documentation. -/
def blockLead : Text := "doc"

/-- What is behind the numbers that a marker can hold. -/
def numberLimit : Nat := Nat.pow 2 64

/-- The number of the block that a name marks; there are digits and nothing else behind the
beginning. -/
def blockNumber? (name : Text) : Option Nat := do
  let digits ← Text.after? blockLead name
  let n ← if digits.all Char.isDigit then Text.natural? 10 digits else none
  if n < numberLimit then some n else none

/-- The part of a name that names a module: what stands behind the first underscore, up to the
next one. -/
def moduleName? (name : Text) : Option Text :=
  (name.splitOn '_')[1]?.filter (!·.isEmpty)

/-- The line above the declarations of a module. -/
def banner (name : Text) : Text :=
  "\n#--- " ++ name.map (fun c => if c = '_' then '/' else c) ++ " ---#"

/-- Read a marker by its name. -/
def ofName (name : Text) : Except BindingFault Marker :=
  match blockNumber? name with
  | some n => .ok (.block n)
  | none =>
    match moduleName? name with
    | some m => .ok (.destination (Text.lower m) (banner name))
    | none => .error (.unknownMarker name)

end Marker

end Bindery
