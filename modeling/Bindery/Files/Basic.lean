import Bindery.Text.Basic

/-!
# Files

What a run needs of the place it runs in: to read a text, to see whether something is there, to
make directories and to write a text. Everything else is computed, so that a run can be watched on
any model of files.
-/

namespace Bindery

/-- Why a file could not be used. -/
inductive FileFault where
  /-- There is nothing under the path. -/
  | missing
  /-- Something on the way is a file. -/
  | notDirectory
  /-- There is a directory under the path. -/
  | isDirectory
  /-- There is something under the path already. -/
  | occupied
  /-- A part of the path is too long for a name. -/
  | longName
  /-- The path holds a character that no name can hold. -/
  | badName
  /-- Something else, in words. -/
  | other (description : Text)
  deriving DecidableEq, Repr

/-- The fault in words. -/
def FileFault.message : FileFault → Text
  | missing => "No such file or directory (os error 2)"
  | notDirectory => "Not a directory (os error 20)"
  | isDirectory => "Is a directory (os error 21)"
  | occupied => "File exists (os error 17)"
  | longName => "File name too long (os error 36)"
  | badName => "file name contained an unexpected NUL byte"
  | other description => description

/-- A place with files, in which actions can fail. -/
class MonadFiles (m : Type → Type) where
  /-- The text of a file. -/
  readText (path : Text) : m (Except FileFault Text)
  /-- Whether there is a file or a directory under a path. -/
  isThere (path : Text) : m Bool
  /-- Make a directory and those around it, as far as they are not there. -/
  makeDirectories (path : Text) : m (Except FileFault Unit)
  /-- Write a text to a file, in place of what was there. -/
  writeText (path text : Text) : m (Except FileFault Unit)

end Bindery
