import Bindery.Binding.Action
import Bindery.Header.Reading
import Bindery.Output
import Bindery.Text.Order

/-!
# Generation

The declarations of a header are visited in order. Each one either writes a group of blocks to the
module that is current behind it, or is reported and skipped.
-/

namespace Bindery

/-- What a run is told about how to bind. -/
structure GenerationOptions where
  /-- The module of the declarations before the first marker. -/
  defaultModule : Text := "main"
  /-- How unions are bound. -/
  unionMode : UnionMode := .object
  deriving DecidableEq, Repr

/-- The report of a fault; a name that is not the library's is nothing serious. -/
def BindingFault.diagnostic (fault : BindingFault) (l : Located) : Diagnostic :=
  ({ severity := match fault with
      | .foreignName _ => .warning
      | _ => .error
     message := fault.message
     declaration := some (l.declaration.name?.getD anonymous)
     label := "skipped"
     help := fault.help } : Diagnostic).locate l.span

/-- A run in progress. -/
structure Generation where
  /-- What later declarations depend on. -/
  context : Context
  /-- What has been written. -/
  output : Output := {}
  /-- The reports of the declarations that were skipped. -/
  diagnostics : List Diagnostic := []
  deriving DecidableEq, Repr

namespace Generation

/-- A run that has not begun. -/
def start (options : GenerationOptions) : Generation :=
  { context := { destination := options.defaultModule } }

/-- What a declaration gives where a run has got to, or why it gives nothing. -/
def outcome (corpus : Corpus) (mode : UnionMode) (g : Generation) (l : Located) :
    Except BindingFault (List Text) :=
  ((Action.ofDeclaration corpus mode l.declaration).perform g.context).1

/-- Visit a declaration. What it gives goes to the module that is current behind it, and a fault
is reported; either way the run goes on with what the declaration has left behind. -/
def visit (corpus : Corpus) (mode : UnionMode) (g : Generation) (l : Located) : Generation :=
  match (Action.ofDeclaration corpus mode l.declaration).perform g.context with
  | (.ok blocks, context) =>
    { g with context := context, output := g.output.emit context.destination blocks }
  | (.error fault, context) =>
    { g with context := context, diagnostics := g.diagnostics ++ [fault.diagnostic l] }

/-- Visit declarations in order. -/
def run (corpus : Corpus) (mode : UnionMode) (g : Generation) (ls : List Located) : Generation :=
  ls.foldl (visit corpus mode) g

/-- Visiting declarations in two parts is the same as visiting them at once. -/
theorem run_append (corpus : Corpus) (mode : UnionMode) (g : Generation) (ls ms : List Located) :
    g.run corpus mode (ls ++ ms) = (g.run corpus mode ls).run corpus mode ms :=
  List.foldl_append

/-- The names of the handles, in alphabetical order. -/
def handleNames (g : Generation) : List Text := g.context.handles.mergeSort Text.precedes

end Generation

/-- Bind the declarations of a header. -/
def generate (corpus : Corpus) (options : GenerationOptions) (ls : List Located) : Generation :=
  (Generation.start options).run corpus options.unionMode ls

end Bindery
