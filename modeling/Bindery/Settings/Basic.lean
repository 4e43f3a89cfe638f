import Bindery.Documentation.Corpus
import Bindery.Files.Path
import Bindery.Generation

/-!
# Settings

Where a run reads from, where it writes to and how it binds. The name of an output file is a
pattern with a place for the name of the module.
-/

namespace Bindery

/-- What a run is told. -/
structure Settings where
  /-- The path of the header. -/
  header : Text := "headers_gen.h"
  /-- The path of the documentation. -/
  documentation : Text := "docs_gen.txt"
  /-- What stands between the blocks of the documentation. -/
  separator : Text := Corpus.standardSeparator
  /-- The directory of the output files. -/
  directory : Text := "."
  /-- The name of an output file, with a place for the module. -/
  pattern : Text := "\x7bmodule\x7d_gen.nim"
  /-- How declarations are bound. -/
  generation : GenerationOptions := {}
  deriving DecidableEq, Repr

namespace Settings

/-- What the name of the module is put in place of. -/
def placeholder : Text := "\x7bmodule\x7d"

/-- The path of the output file of a module. -/
def outputPath (s : Settings) (module : Text) : Text :=
  Path.join s.directory (Text.replace placeholder module s.pattern)

/-- The settings with relative paths seen from a directory. -/
def within (base : Text) (s : Settings) : Settings :=
  { s with
    header := Path.join base s.header
    documentation := Path.join base s.documentation
    directory := Path.join base s.directory }

/-- Why settings cannot be used. -/
inductive Flaw where
  /-- The names of the output files do not depend on the module. -/
  | constantPattern (pattern : Text)
  /-- Blocks of documentation are not separated by anything. -/
  | emptySeparator
  /-- The declarations before the first marker go to a module without a name. -/
  | namelessModule
  deriving DecidableEq, Repr

/-- The flaw in words. -/
def Flaw.message : Flaw → Text
  | constantPattern pattern =>
    "Config validation error: output.file_pattern `" ++ pattern ++ "` does not contain `" ++
      placeholder ++ "`"
  | emptySeparator => "Config validation error: input.doc_separator must not be empty"
  | namelessModule => "Config validation error: output.default_module must not be empty"

/-- The first flaw of some settings. -/
def flaw? (s : Settings) : Option Flaw :=
  if !Text.occurs placeholder s.pattern then some (.constantPattern s.pattern)
  else if s.separator.isEmpty then some .emptySeparator
  else if s.generation.defaultModule.isEmpty then some .namelessModule
  else none

/-- The settings that are used where nothing is said have no flaw. -/
theorem flaw?_default : flaw? {} = none := by with_unfolding_all decide

end Settings

end Bindery
