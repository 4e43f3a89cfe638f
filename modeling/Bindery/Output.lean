import Bindery.Text.Basic

/-!
# Output

The text of every module grows at its end, one group of blocks after the other. Modules are kept
in the order in which they were first written to.
-/

namespace Bindery

/-- The texts of the modules, in the order of their first groups. -/
structure Output where
  /-- Every module with its text. -/
  modules : List (Text × Text) := []
  deriving DecidableEq, Repr

namespace Output

/-- The names of the modules. -/
def keys (o : Output) : List Text := o.modules.map (·.1)

/-- The text of a module, if anything was written to it. -/
def text? (o : Output) (key : Text) : Option Text := o.modules.lookup key

/-- Every block on lines of its own. -/
def groupText (blocks : List Text) : Text := blocks.flatMap (· ++ ['\n'])

/-- What separates a group from the one before: an empty line, unless the group is indented and
so goes on with what stands there. -/
def separator (blocks : List Text) : Text :=
  match blocks with
  | (' ' :: _) :: _ => []
  | _ => ['\n']

/-- Add a group to the module with a name. -/
def addTo (key : Text) (blocks : List Text) : List (Text × Text) → List (Text × Text)
  | [] => [(key, groupText blocks)]
  | (k, t) :: modules =>
    if k = key then (k, t ++ separator blocks ++ groupText blocks) :: modules
    else (k, t) :: addTo key blocks modules

/-- Write a group of blocks to a module; a group without blocks changes nothing. -/
def emit (o : Output) (key : Text) (blocks : List Text) : Output :=
  if blocks.isEmpty then o else ⟨addTo key blocks o.modules⟩

/-- A group without blocks changes nothing. -/
@[simp] theorem emit_nil (o : Output) (key : Text) : o.emit key [] = o := rfl

/-- The first group of the first module is written as it is. -/
theorem emit_empty (key block : Text) (blocks : List Text) :
    Output.emit {} key (block :: blocks) = ⟨[(key, groupText (block :: blocks))]⟩ := rfl

end Output

end Bindery
