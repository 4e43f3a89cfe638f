import Bindery.Source.Span
import Bindery.Text.Basic

/-!
# Diagnostics

What went wrong with one declaration. A diagnostic never stops a run; it is collected and shown
beside the results.
-/

namespace Bindery

/-- How serious a diagnostic is. -/
inductive Severity where
  | error
  | warning
  deriving DecidableEq, Repr

/-- A message about one declaration of a header. -/
structure Diagnostic where
  /-- Whether the run has to count as failed. -/
  severity : Severity
  /-- What is wrong. -/
  message : Text
  /-- The name of the declaration, as far as it is known. -/
  declaration : Option Text := none
  /-- Where the declaration stands, if it stands anywhere. -/
  span : Option Span := none
  /-- What is written under the marked place. -/
  label : Text := []
  /-- How to mend it. -/
  help : Option Text := none
  deriving DecidableEq, Repr

namespace Diagnostic

/-- Whether the diagnostic counts as an error. -/
def isError (d : Diagnostic) : Bool := d.severity == .error

/-- Point a diagnostic at a place; an empty range points nowhere. -/
def locate (d : Diagnostic) (place : Span) : Diagnostic :=
  match place.nonempty? with
  | some s => { d with span := some s }
  | none => d

/-- The marked place with the label under it, if the label says anything. -/
def mark? (d : Diagnostic) : Option (Option Text × Span) :=
  d.span.map fun s => (if d.label.isEmpty then none else some d.label, s)

/-- How many of some diagnostics are errors. -/
def errors (ds : List Diagnostic) : Nat := ds.countP isError

/-- How many of some diagnostics are warnings. -/
def warnings (ds : List Diagnostic) : Nat := ds.countP (!·.isError)

/-- Errors and warnings together are all diagnostics. -/
theorem errors_add_warnings (ds : List Diagnostic) : errors ds + warnings ds = ds.length := by
  simpa [errors, warnings] using (List.length_eq_countP_add_countP isError (l := ds)).symm

end Diagnostic

end Bindery
