import Bindery.Text.Basic

/-!
# Lines and columns

A position counts lines and, within the line, bytes, both from zero. Line starts are listed once
for a source; an offset lies on the last line that starts at or before it, also when it lies
behind the end of the source.
-/

namespace Bindery

/-- A line and a byte column, both counted from zero. -/
structure Position where
  /-- The number of line feeds before the place. -/
  line : Nat
  /-- The number of bytes since the start of the line. -/
  column : Nat
  deriving DecidableEq, Repr

/-- The offsets behind the line feeds of a text that begins at `offset`. -/
def lineStartsFrom (offset : Nat) : Text → List Nat
  | [] => []
  | c :: t =>
    let next := offset + c.utf8Size
    if c = '\n' then next :: lineStartsFrom next t else lineStartsFrom next t

/-- The offsets at which the lines after the first begin. -/
def lineStarts (source : Text) : List Nat := lineStartsFrom 0 source

/-- The position of a byte offset. -/
def Position.ofOffset (source : Text) (offset : Nat) : Position :=
  let passed := (lineStarts source).takeWhile (· ≤ offset)
  ⟨passed.length, offset - passed.getLast?.getD 0⟩

end Bindery
