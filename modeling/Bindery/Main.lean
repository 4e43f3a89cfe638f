import Bindery.Program

/-!
# The command line program
-/

namespace Bindery

/-- The text of a fault that the system reports. -/
def fileFaultOf : IO.Error → FileFault
  | .noFileOrDirectory .. => .missing
  | .inappropriateType .. => .notDirectory
  | .alreadyExists .. => .occupied
  | e => .other (toString e)

/-- An action with its failure as a value. -/
def attempt (action : IO α) : IO (Except FileFault α) :=
  try return .ok (← action) catch e => return .error (fileFaultOf e)

instance : MonadFiles IO where
  readText path := attempt do return Text.ofString (← IO.FS.readFile (String.ofList path))
  isThere path := do
    match ← attempt (IO.FS.readFile (String.ofList path)) with
    | .error .missing => return false
    | _ => return true
  makeDirectories path := attempt (IO.FS.createDirAll (String.ofList path))
  writeText path text := attempt (IO.FS.writeFile (String.ofList path) (String.ofList text))

end Bindery

open Bindery in
/-- Do what the arguments ask for, print the answer and leave with its code. -/
def main (arguments : List String) : IO UInt32 := do
  let answer ← (Program.run (arguments.map Text.ofString) : IO Answer)
  IO.print (String.ofList answer.output)
  for report in answer.reports do
    IO.eprintln (String.ofList report)
  return UInt32.ofNat answer.code
