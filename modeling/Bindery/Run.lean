import Bindery.Settings.Reader

/-!
# Runs

A run reads the header and the documentation, binds the declarations, and writes one file for
every module. Only files that cannot be used stop it; what is wrong with single declarations is
collected.
-/

namespace Bindery

/-- Why a run stops. -/
inductive RunFault where
  /-- The header cannot be read. -/
  | unreadableHeader (path : Text) (cause : FileFault)
  /-- The documentation cannot be read. -/
  | unreadableDocumentation (path : Text) (cause : FileFault)
  /-- The directory of the output files cannot be made. -/
  | noDirectory (path : Text) (cause : FileFault)
  /-- An output file cannot be written. -/
  | unwritable (path : Text) (cause : FileFault)
  deriving DecidableEq, Repr

/-- The fault in words. -/
def RunFault.message : RunFault → Text
  | unreadableHeader path cause => "Failed to read " ++ path ++ ": " ++ cause.message
  | unreadableDocumentation path _ => "Failed to read documentation corpus " ++ path
  | noDirectory path _ => "Failed to create output directory " ++ path
  | unwritable path _ => "Failed to write " ++ path

/-- What a run found and made. -/
structure Run where
  /-- The path of the header. -/
  header : Text
  /-- The reports of reading the header. -/
  reported : List Diagnostic
  /-- The bindings. -/
  generation : Generation
  /-- The files that were written, in the order of the modules. -/
  written : List Text := []
  deriving Repr

namespace Run

/-- All reports, those of reading first. -/
def diagnostics (r : Run) : List Diagnostic := r.reported ++ r.generation.diagnostics

/-- Whether a report counts as an error. -/
def hasErrors (r : Run) : Bool := r.diagnostics.any Diagnostic.isError

variable [Monad m] [MonadFiles m]

/-- Read a file, or stop with a fault. -/
def readText (path : Text) (fault : FileFault → RunFault) : ExceptT RunFault m Text := do
  match ← (MonadFiles.readText path : m _) with
  | .ok text => return text
  | .error cause => throw (fault cause)

/-- Read the declarations of a header. -/
def readHeader (path : Text) : ExceptT RunFault m Header.Reading := do
  return Header.read (← readText path (.unreadableHeader path))

/-- A run that writes nothing. -/
def check (s : Settings) : ExceptT RunFault m Run := do
  let reading ← readHeader s.header
  let text ← readText s.documentation (.unreadableDocumentation s.documentation)
  let corpus := Corpus.ofText s.separator text
  return {
    header := s.header
    reported := reading.diagnostics
    generation := Bindery.generate corpus s.generation reading.declarations }

/-- Write the text of one module to its file. -/
def writeModule (s : Settings) (module : Text × Text) : ExceptT RunFault m Text := do
  let path := s.outputPath module.1
  match ← (MonadFiles.writeText path module.2 : m _) with
  | .ok () => return path
  | .error cause => throw (.unwritable path cause)

/-- Write the text of every module to its file. -/
def writeOutput (s : Settings) (output : Output) : ExceptT RunFault m (List Text) := do
  match ← (MonadFiles.makeDirectories s.directory : m _) with
  | .ok () => output.modules.mapM (writeModule s)
  | .error cause => throw (.noDirectory s.directory cause)

/-- A run that writes the modules. -/
def generate (s : Settings) : ExceptT RunFault m Run := do
  let run ← check s
  return { run with written := ← writeOutput s run.generation.output }

end Run

end Bindery
