import Bindery.Binding.Basic
import Bindery.Binding.Fault
import Bindery.Text.Integer
import Bindery.Text.Lead
import Bindery.Text.Wrap

/-!
# Enumerations

A nameless enumeration only gives its constants. A named one becomes a type, whose members lose
what all their names begin with; members that are second names of others are left out, and members
that are all given by number come in the order of their numbers.
-/

namespace Bindery

/-- What stands before and after the value of something. -/
def assigned (name : Text) (value : Option Text) : Text :=
  match value with
  | some v => name ++ " = " ++ v
  | none => name

/-- A constant of a nameless enumeration. -/
def constantLine (e : Enumerator) : Except BindingFault Text := do
  return "  " ++ assigned ((← bareName e.name) ++ ['*']) e.value

/-- A nameless enumeration gives its constants. -/
def bindConstants (items : List Enumerator) : Except BindingFault Binding := do
  return .plain ("const" :: (← items.mapM constantLine))

namespace Enumerator

/-- The value, if it is given as a number. -/
def number? (e : Enumerator) : Option Int := e.value.bind Text.literal?

/-- Whether the value is the name of another member. -/
def isSecondName (e : Enumerator) : Bool := e.value.any (Text.startsWith libraryLead)

/-- The members without what all their names begin with. -/
def withoutLead (items : List Enumerator) : List Enumerator :=
  let lead := Text.commonLeadOf (items.map (·.name))
  items.map fun e => { e with name := e.name.drop lead.length }

/-- Members that are all given by number, in the order of the numbers; other members as they
are. -/
def ordered (items : List Enumerator) : List Enumerator :=
  match items.mapM number? with
  | some numbers => ((numbers.zip items).mergeSort fun a b => a.1 ≤ b.1).map (·.2)
  | none => items

/-- The members that are shown, in the order in which they are shown. -/
def shown (items : List Enumerator) : List Enumerator :=
  (ordered (withoutLead items)).filter (!·.isSecondName)

/-- The widest line of members, in bytes. -/
def lineWidth : Nat := 80

/-- What stands before every line of members. -/
def lineIndent : Text := "  "

/-- The members in writing. -/
def render (items : List Enumerator) : Text :=
  let list := List.intercalate ", " ((shown items).map fun e => assigned e.name e.value)
  Text.unlines (Text.wrap lineWidth lineIndent list)

end Enumerator

/-- A named enumeration becomes a type. -/
def bindEnumeration (name : Text) (items : List Enumerator) : Except BindingFault Binding := do
  let head := "type " ++ (← bareName name) ++ "* \x7b.pure, size: sizeof(cint).\x7d = enum"
  return .enumeration head (Enumerator.render items)

end Bindery
