/-!
# Byte ranges of a source
-/

namespace Bindery

/-- The bytes from `start` up to, and not including, `stop`. -/
structure Span where
  /-- The offset of the first byte. -/
  start : Nat := 0
  /-- The offset behind the last byte. -/
  stop : Nat := 0
  deriving DecidableEq, Repr

namespace Span

/-- The number of bytes. -/
def length (s : Span) : Nat := s.stop - s.start

/-- A range without bytes points nowhere. -/
def isEmpty (s : Span) : Bool := s.start == s.stop

/-- The range itself, unless it points nowhere. -/
def nonempty? (s : Span) : Option Span := if s.isEmpty then none else some s

/-- The same range behind `offset` more bytes. -/
def shift (s : Span) (offset : Nat) : Span := ⟨s.start + offset, s.stop + offset⟩

@[simp] theorem shift_zero (s : Span) : s.shift 0 = s := rfl

@[simp] theorem length_shift (s : Span) (n : Nat) : (s.shift n).length = s.length := by
  simp [shift, length, Nat.add_sub_add_right]

end Span

end Bindery
