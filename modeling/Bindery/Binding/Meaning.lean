import Bindery.Binding.Enumeration
import Bindery.Binding.Marker
import Bindery.Binding.Record
import Bindery.Documentation.Markup

/-!
# What declarations mean

The meaning of a declaration is found first, and only that can fail. Carrying a meaning out always
succeeds: it changes what later declarations depend on, and gives blocks of text. So a declaration
without a meaning leaves no trace.
-/

namespace Bindery

/-- What a declaration asks for. -/
inductive Meaning where
  /-- To be bound. -/
  | binding (b : Binding)
  /-- To be bound as a handle with a name. -/
  | handle (name : Text) (b : Binding)
  /-- To keep a text for the next declaration that takes a comment. -/
  | documentation (t : Text)
  /-- To go on in another module, below a banner. -/
  | destination (key banner : Text)
  deriving DecidableEq, Repr

namespace Meaning

/-- The meaning of a marker in the light of the documentation there is. -/
def ofMarker (corpus : Corpus) : Marker → Except BindingFault Meaning
  | .block number => return .documentation (Markup.commentText (← corpus.block number))
  | .destination key banner => .ok (.destination key banner)

/-- The meaning of a declaration, given the handles declared before it. -/
def ofDeclaration (corpus : Corpus) (mode : UnionMode) (handles : Handles) :
    Declaration → Except BindingFault Meaning
  | .function s => return binding (← bindFunction handles s)
  | .callback s => return binding (← bindCallback handles s)
  | .alias name target => return binding (bindAlias name target)
  | .enumeration (some name) (some items) => return binding (← bindEnumeration name items)
  | .enumeration none (some items) => return binding (← bindConstants items)
  | .enumeration (some name) none => do ofMarker corpus (← Marker.ofName name)
  | .enumeration none none => .error .emptyEnumeration
  | .struct r => return binding (← bindStruct handles r)
  | .union r => return binding (← bindUnion handles mode r)
  | .handle name => return handle (← bareName name) (← bindHandle name)

end Meaning

/-- What the meaning and the place of a declaration depend on. -/
structure Context where
  /-- The handles declared so far. -/
  handles : Handles := []
  /-- The documentation of the next declaration that takes a comment. -/
  pending : Option Text := none
  /-- The module that declarations go to. -/
  destination : Text
  deriving DecidableEq, Repr

namespace Context

/-- Take the comment for a declaration, which is used up by that also where it says nothing. -/
def takeComment (c : Context) : Option Text × Context :=
  (declarationComment? c.pending, { c with pending := none })

/-- Give a binding its comment, if it takes one. -/
def place (c : Context) (b : Binding) : List Text × Context :=
  if b.takesComment then
    let (comment, c) := c.takeComment
    (b.blocks comment, c)
  else (b.blocks none, c)

/-- Carry out a meaning: the blocks it gives, and what later declarations depend on. -/
def apply (c : Context) : Meaning → List Text × Context
  | .binding b => c.place b
  | .handle name b => { c with handles := c.handles.insert name }.place b
  | .documentation t => ([], { c with pending := some t })
  | .destination key banner => ([banner], { c with destination := key })

/-- Carry out a meaning that was found; where none was, nothing changes. -/
def carryOut (c : Context) :
    Except BindingFault Meaning → Except BindingFault (List Text) × Context
  | .ok meaning => (.ok (c.apply meaning).1, (c.apply meaning).2)
  | .error fault => (.error fault, c)

end Context

end Bindery
