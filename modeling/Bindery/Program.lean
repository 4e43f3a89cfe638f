import Bindery.CommandLine
import Bindery.Declaration.Listing
import Bindery.Run

/-!
# The program

The program does what its command line asks for and answers with a text and an exit code. Faulty
declarations are reported but do not make it fail; files or settings that cannot be used do.
-/

namespace Bindery

/-- What the program leaves behind. -/
structure Answer where
  /-- Zero for success, one for failure, two for a command line that is not understood. -/
  code : Nat
  /-- What is printed. -/
  output : Text := []
  /-- What is reported beside it. -/
  reports : List Text := []
  deriving DecidableEq, Repr

namespace Program

/-- The name of the program and its version. -/
def version : Text := "sfgen 0.1.0"

/-- How the program is used. -/
def usage : Text :=
  Text.unlines [
    "Usage: sfgen [-v] <COMMAND>",
    "",
    "Commands:",
    "  generate  Write one file per module",
    "  check     Report what is wrong without writing files",
    "  dump      Print the declarations of a header",
    "",
    "Options of generate and check:",
    "  -c, --config <FILE>  Settings (default: ./sfgen.toml if present)",
    "      --header <FILE>  Header",
    "      --docs <FILE>    Documentation corpus",
    "  -o, --out-dir <DIR>  Directory of the modules"]

/-- The settings file that is used where none is named, if it is there. -/
def standardConfig : Text := "sfgen.toml"

/-- A number of things. -/
def count (n : Nat) (what : Text) : Text := Text.ofNat n ++ [' '] ++ what

/-- What a run made and found, in numbers. -/
def summary (r : Run) : Text :=
  List.intercalate ", " [
    count r.generation.output.modules.length "module(s)",
    count r.generation.context.handles.length "class(es)",
    count (Diagnostic.errors r.diagnostics) "error(s)",
    count (Diagnostic.warnings r.diagnostics) "warning(s)"]

/-- A report on one line. -/
def reportLine (d : Diagnostic) : Text :=
  (if d.isError then ("error: " : Text) else "warning: ") ++ d.message ++
    match d.help with
    | some help => (" (" : Text) ++ help ++ [')']
    | none => []

/-- The answer of a run that reached its end, with some lines of text. -/
def success (r : Run) (lines : List Text) : Answer :=
  ⟨0, lines.flatMap (· ++ ['\n']), r.diagnostics.map reportLine⟩

/-- The answer of a run that stopped. -/
def failure (message : Text) : Answer := ⟨1, [], ["error: " ++ message]⟩

/-- What is printed about a run that wrote files. -/
def generated (r : Run) : Answer :=
  success r (r.written.map (("Wrote " : Text) ++ ·) ++ [r.header ++ ": " ++ summary r])

/-- What is printed about a run that wrote nothing. -/
def checked (r : Run) : Answer :=
  let status : Text := if r.hasErrors then "errors" else "OK"
  success r [r.header ++ ": " ++ status ++ " (" ++ summary r ++ [')']]

/-- What is printed about the declarations of a header. -/
def listed (reading : Header.Reading) : Answer :=
  ⟨0, listing reading.declarations ++ ['\n'], reading.diagnostics.map reportLine⟩

/-- Settings with some paths in place of their own. -/
def override (o : Overrides) (s : Settings) : Settings :=
  { s with
    header := o.header.getD s.header
    documentation := o.documentation.getD s.documentation
    directory := o.directory.getD s.directory }

variable [Monad m] [MonadFiles m]

/-- The settings of a run: those of the file that is named or found, or else the usual ones. -/
def settings (o : Overrides) : m (Except Settings.Fault Settings) := do
  let path ←
    match o.config with
    | some path => pure (some path)
    | none => do
      let found ← MonadFiles.isThere standardConfig
      pure (if found then some standardConfig else none)
  match path with
  | some path => return (← Settings.load path).map (override o)
  | none => return .ok (override o {})

/-- Do a run with the settings that are asked for. -/
def execute (o : Overrides) (run : Settings → ExceptT RunFault m Run) (answer : Run → Answer) :
    m Answer := do
  match ← settings o with
  | .error fault => return failure fault.message
  | .ok s =>
    match ← (run s).run with
    | .ok r => return answer r
    | .error fault => return failure fault.message

/-- Do what is asked for. -/
def respond : Request → m Answer
  | .generate o => execute o Run.generate generated
  | .check o => execute o Run.check checked
  | .dump header => do
    match ← (Run.readHeader header).run with
    | .ok reading => return listed reading
    | .error fault => return failure fault.message
  | .help => return ⟨0, usage ++ ['\n'], []⟩
  | .version => return ⟨0, version ++ ['\n'], []⟩
  | .misuse => return ⟨2, [], [usage]⟩

/-- Do what a command line asks for. -/
def run (arguments : List Text) : m Answer := respond (Request.ofArguments arguments)

end Program

end Bindery
