import Bindery.Text.Blank
import Bindery.Text.Search

/-!
# Documentation corpora

A corpus is one text that holds blocks of documentation between separators. Blocks are known by
their number, counted from one.
-/

namespace Bindery

/-- The blocks of a documentation corpus, in order. -/
structure Corpus where
  /-- The blocks as they were written. -/
  blocks : List Text := []
  deriving DecidableEq, Repr

namespace Corpus

/-- What stands between two blocks unless something else is asked for. -/
def standardSeparator : Text := "\n--------\n"

/-- Read a corpus. Blanks around the whole text do not count, and a blank text has no blocks. -/
def ofText (separator text : Text) : Corpus :=
  let text := Text.trim text
  if text.isEmpty then {} else ⟨Text.pieces separator text⟩

/-- The number of blocks. -/
def size (c : Corpus) : Nat := c.blocks.length

/-- The block with a number, counted from one. -/
def block? (c : Corpus) : Nat → Option Text
  | 0 => none
  | i + 1 => c.blocks[i]?

/-- Exactly the numbers from one to the size have a block. -/
theorem isSome_block?_iff {c : Corpus} {i : Nat} : (c.block? i).isSome ↔ 0 < i ∧ i ≤ c.size := by
  cases i with
  | zero => simp [block?]
  | succ i =>
    rw [block?, Option.isSome_iff_ne_none, ne_eq, List.getElem?_eq_none_iff, size]
    omega

end Corpus

end Bindery
