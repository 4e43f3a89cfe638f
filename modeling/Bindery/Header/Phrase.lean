import Bindery.Header.Keyword
import Bindery.Header.Reader

/-!
# Phrases that contain one another

Expressions contain type names, type names contain template arguments, and these contain both
again. The readers of such phrases are built in layers: each layer is made of readers that take
the readers of the layer below for the phrases inside.
-/

namespace Bindery.Header

/-- What matters about an expression besides its extent. -/
structure Form where
  /-- Whether a value can be assigned to it. -/
  assignable : Bool := false
  /-- Whether its outermost operator stands between two operands. -/
  binary : Bool := false
  /-- Whether its outermost operator binds looser than those between two operands. -/
  loose : Bool := false

/-- The readers of one layer. -/
structure Phrases where
  /-- An expression; the flag says that a closing angle bracket would end it. -/
  expression : Bool → Reader Form
  /-- An operand with what is written directly before and behind it; the flag as above. -/
  operand : Bool → Reader Form
  /-- A type without the declarators that may follow it. -/
  specifier : Reader Unit
  /-- A type as it is named outside declarations. -/
  typeName : Reader Unit
  /-- Template arguments in angle brackets. -/
  templateArguments : Reader Unit

/-- The layer that reads nothing. -/
def Phrases.none : Phrases where
  expression _ := Reader.fail
  operand _ := Reader.fail
  specifier := Reader.fail
  typeName := Reader.fail
  templateArguments := Reader.fail

end Bindery.Header
