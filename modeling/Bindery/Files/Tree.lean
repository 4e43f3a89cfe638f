import Bindery.Files.Basic
import Bindery.Files.Path
import Bindery.Text.Order

/-!
# Trees of files

A model of a place with files: directories and files under absolute places, and a working
directory in which relative paths begin. A path is walked part by part, and every part but the
last has to lead to a directory.
-/

namespace Bindery

/-- The names that lead from the root to a place. -/
abbrev FileTree.Place := List Text

open FileTree (Place)

/-- The files and directories of a place. The root is always a directory. -/
structure FileTree where
  /-- The files with their texts. -/
  files : List (Place × Text) := []
  /-- The directories other than the root. -/
  directories : List Place := []
  /-- Where relative paths begin. -/
  working : Place := []
  deriving DecidableEq, Repr

namespace FileTree

/-- Whether a place is a directory. -/
def isDirectory (tree : FileTree) (place : Place) : Bool :=
  place.isEmpty || tree.directories.contains place

/-- The text of the file at a place. -/
def text? (tree : FileTree) (place : Place) : Option Text := tree.files.lookup place

/-- Whether there is something at a place. -/
def holds (tree : FileTree) (place : Place) : Bool :=
  tree.isDirectory place || (tree.text? place).isSome

/-- The longest name, in bytes. -/
def nameLimit : Nat := 255

/-- What is behind the longest path, in bytes. -/
def pathLimit : Nat := 4096

/-- The place that one part of a path leads to, whether or not there is anything. -/
def follow (tree : FileTree) (place : Place) (part : Text) : Except FileFault Place :=
  if !tree.isDirectory place then
    .error (if tree.holds place then .notDirectory else .missing)
  else if Path.isIdle part then .ok place
  else if part = (".." : Text) then .ok place.dropLast
  else if nameLimit < Text.byteSize part then .error .longName
  else .ok (place ++ [part])

/-- Where a path begins. -/
def origin (tree : FileTree) (path : Text) : Place :=
  if Path.isAbsolute path then [] else tree.working

/-- The parts of a path. A slash at the end is no part, but asks for a directory. -/
def parts (path : Text) : List Text := (path.splitOn '/').filter (!·.isEmpty)

/-- Whether a path can be walked at all. -/
def usable (path : Text) : Except FileFault Unit :=
  if path.any (·.toNat = 0) then .error .badName
  else if path.isEmpty then .error .missing
  else if pathLimit ≤ Text.byteSize path then .error .longName
  else .ok ()

/-- The place that a path leads to, whether or not there is anything. -/
def resolve (tree : FileTree) (path : Text) : Except FileFault Place := do
  usable path
  (parts path).foldlM tree.follow (tree.origin path)

/-- Whether a path asks for a directory. -/
def asksDirectory (path : Text) : Bool :=
  match (path.splitOn '/').getLast? with
  | some part => Path.isIdle part || part == Text.ofString ".."
  | none => false

/-- The text under a path. -/
def read (tree : FileTree) (path : Text) : Except FileFault Text := do
  let place ← tree.resolve path
  match tree.text? place with
  | some text => if asksDirectory path then .error .notDirectory else .ok text
  | none => .error (if tree.isDirectory place then .isDirectory else .missing)

/-- Whether there is something under a path. -/
def isThere (tree : FileTree) (path : Text) : Bool :=
  match tree.resolve path with
  | .ok place => tree.isDirectory place || ((tree.text? place).isSome && !asksDirectory path)
  | .error _ => false

/-- Whether there is a directory under a path. -/
def isDirectoryAt (tree : FileTree) (path : Text) : Bool :=
  match tree.resolve path with
  | .ok place => tree.isDirectory place
  | .error _ => false

/-- The tree with a text at a place. -/
def put (tree : FileTree) (place : Place) (text : Text) : FileTree :=
  if (tree.text? place).isSome then
    { tree with files := tree.files.map fun (p, t) => if p = place then (p, text) else (p, t) }
  else { tree with files := tree.files ++ [(place, text)] }

/-- The tree with a directory at a place. -/
def addDirectory (tree : FileTree) (place : Place) : FileTree :=
  { tree with directories := tree.directories ++ [place] }

/-- Write a text to the file under a path. -/
def write (tree : FileTree) (path text : Text) : Except FileFault FileTree := do
  let place ← tree.resolve path
  if asksDirectory path || tree.isDirectory place then .error .isDirectory
  else .ok (tree.put place text)

/-- Make one directory. -/
def makeDirectory (tree : FileTree) (path : Text) : Except FileFault FileTree := do
  let place ← tree.resolve path
  if tree.holds place then .error .occupied else .ok (tree.addDirectory place)

/-- Make a directory and those around it, going at most so many steps towards the root. What is a
directory already may stay. -/
def makeDirectoriesFrom : Nat → FileTree → Text → Except FileFault FileTree
  | 0, _, _ => .error .missing
  | steps + 1, tree, path =>
    if path.isEmpty then .ok tree
    else
      match tree.makeDirectory path with
      | .ok tree => .ok tree
      | .error .missing => do
        let tree ← makeDirectoriesFrom steps tree (← (Path.parent? path).elim (.error .missing) .ok)
        settle tree path (tree.makeDirectory path)
      | .error fault => settle tree path (.error fault)
where
  /-- A failure does not count where there is a directory. -/
  settle (tree : FileTree) (path : Text) : Except FileFault FileTree → Except FileFault FileTree
    | .ok tree => .ok tree
    | .error fault => if tree.isDirectoryAt path then .ok tree else .error fault

/-- Make a directory and those around it, as far as they are not there. -/
def makeDirectories (tree : FileTree) (path : Text) : Except FileFault FileTree :=
  makeDirectoriesFrom (path.length + 1) tree path

/-- Every place around a place, the outermost first. -/
def around (place : Place) : List Place :=
  (List.range place.length).tail.map fun n => place.take n

/-- The tree with a text at a place and all directories around it. -/
def plant (tree : FileTree) (place : Place) (text : Text) : FileTree :=
  ((around place).foldl (fun t p => if t.isDirectory p then t else t.addDirectory p) tree).put
    place text

/-- A working directory with texts under some relative paths. -/
def ofFiles (working : Place) (files : List (Text × Text)) : FileTree :=
  let empty : FileTree :=
    { directories := around (working ++ [[]]), working := working }
  files.foldl (fun tree (path, text) => tree.plant (working ++ parts path) text) empty

/-- The paths below the working directory whose texts are not those of another tree, in
alphabetical order. -/
def changes (before after : FileTree) : List (Text × Text) :=
  let changed := after.files.filterMap fun (place, text) =>
    if before.text? place = some text then none
    else (afterPlace? after.working place).map fun rest => (List.intercalate ['/'] rest, text)
  changed.mergeSort fun a b => Text.precedes a.1 b.1
where
  /-- What leads from one place to another below it. -/
  afterPlace? : Place → Place → Option Place
    | [], place => some place
    | _ :: _, [] => none
    | a :: base, b :: place => if a = b then afterPlace? base place else none

end FileTree

/-- A state of files, in which failing actions change nothing. -/
instance : MonadFiles (StateM FileTree) where
  readText path := fun tree => (tree.read path, tree)
  isThere path := fun tree => (tree.isThere path, tree)
  makeDirectories path := fun tree =>
    match tree.makeDirectories path with
    | .ok tree => (.ok (), tree)
    | .error fault => (.error fault, tree)
  writeText path text := fun tree =>
    match tree.write path text with
    | .ok tree => (.ok (), tree)
    | .error fault => (.error fault, tree)

end Bindery
