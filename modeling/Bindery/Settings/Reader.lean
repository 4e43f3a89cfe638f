import Bindery.Files.Basic
import Bindery.Settings.Basic
import Bindery.Toml.Document

/-!
# Settings in writing

Settings are written as a TOML document with three groups. What is left out has its usual value,
and what is not known is passed over. A group may also be written as an array with its values in
order.
-/

namespace Bindery.Settings

/-- Look up parts of a group by name. -/
abbrev Group := Text → Option Toml.Node

/-- A group whose values are given in the order of some names. -/
def positional (names : List Text) (values : List Toml.Node) : Group := fun name =>
  ((names.zip values).find? fun (n, _) => n = name).map (·.2)

/-- A part of a document as a group with parts of some names. A date has no parts that are known. -/
def group? (names : List Text) : Option Toml.Node → Option Group
  | none => some fun _ => none
  | some (.table _ es) => some fun name => es.lookup name
  | some (.tables all) => some (positional names (all.map (.table .header)))
  | some (.value (.table es)) => some fun name => (es.lookup name).map .value
  | some (.value (.array items)) => some (positional names (items.map .value))
  | some (.value .moment) => some fun _ => none
  | some (.value _) => none

/-- A text in a group, or its usual value. -/
def text? (group : Group) (name usual : Text) : Option Text :=
  match group name with
  | none => some usual
  | some (.value (.text t)) => some t
  | some _ => none

/-- How unions are bound, by name. -/
def unionModeOf? (name : Text) : Option UnionMode :=
  if name = ("object" : Text) then some .object
  else if name = ("include" : Text) then some .included
  else none

/-- Whether a part of a document holds nothing. -/
def isHollow : Toml.Node → Bool
  | .table _ es => es.isEmpty
  | .tables all => all.isEmpty
  | .value (.table es) => es.isEmpty
  | .value (.array items) => items.isEmpty
  | .value _ => false

/-- How unions are bound: by name, or by a table with nothing under that name. -/
def unionMode? : Option Toml.Node → Option UnionMode
  | none => some .object
  | some (.value (.text name)) => unionModeOf? name
  | some (.value (.table [(name, v)])) => if isHollow (.value v) then unionModeOf? name else none
  | some (.table _ [(name, node)]) => if isHollow node then unionModeOf? name else none
  | some _ => none

/-- The settings that a document holds. -/
def ofDocument? (document : Toml.Entries) : Option Settings := do
  let usual : Settings := {}
  let part (name : Text) : Option Toml.Node := document.lookup name
  let input ← group? ["header", "docs", "doc_separator"] (part "input")
  let output ← group? ["dir", "file_pattern", "default_module"] (part "output")
  let codegen ← group? ["union_mode"] (part "codegen")
  return {
    header := ← text? input "header" usual.header
    documentation := ← text? input "docs" usual.documentation
    separator := ← text? input "doc_separator" usual.separator
    directory := ← text? output "dir" usual.directory
    pattern := ← text? output "file_pattern" usual.pattern
    generation := {
      defaultModule := ← text? output "default_module" usual.generation.defaultModule
      unionMode := ← unionMode? (codegen "union_mode") } }

/-- Why settings cannot be read. -/
inductive Fault where
  /-- The file cannot be read. -/
  | unreadable (path : Text) (cause : FileFault)
  /-- It does not hold settings. -/
  | malformed
  /-- The settings cannot be used. -/
  | flawed (flaw : Flaw)
  deriving DecidableEq, Repr

/-- The fault in words. -/
def Fault.message : Fault → Text
  | unreadable path cause => "Failed to read config file " ++ path ++ ": " ++ cause.message
  | malformed => "Failed to parse TOML config"
  | flawed flaw => flaw.message

/-- Read settings from their written form. -/
def read (t : Text) : Except Fault Settings :=
  match (Toml.read? t).bind ofDocument? with
  | none => .error .malformed
  | some s =>
    match s.flaw? with
    | some flaw => .error (.flawed flaw)
    | none => .ok s

/-- Settings that can be read have no flaw. -/
theorem flaw?_of_read {t : Text} {s : Settings} (h : read t = .ok s) : s.flaw? = none := by
  unfold read at h
  split at h
  · cases h
  · split at h
    · cases h
    · cases h
      assumption

/-- Load settings from a file. Its relative paths are seen from the directory of the file. -/
def load [Monad m] [MonadFiles m] (path : Text) : m (Except Fault Settings) := do
  match ← MonadFiles.readText path with
  | .error cause => return .error (.unreadable path cause)
  | .ok text =>
    return (read text).map fun s =>
      match Path.parent? path with
      | some base => s.within base
      | none => s

end Bindery.Settings
