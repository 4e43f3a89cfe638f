import Bindery.Text.Search

/-!
# Command lines

A command line names a command and gives its options. Arguments are taken from left to right, and
the first one that settles what happens does: a question for help or for the version is answered,
and anything that does not fit is a misuse.
-/

namespace Bindery

/-- Paths that take the place of those in the settings. -/
structure Overrides where
  /-- The settings file. -/
  config : Option Text := none
  /-- The header. -/
  header : Option Text := none
  /-- The documentation. -/
  documentation : Option Text := none
  /-- The directory of the output files. -/
  directory : Option Text := none
  deriving DecidableEq, Repr

/-- What the program is asked to do. -/
inductive Request where
  /-- To write the modules. -/
  | generate (o : Overrides)
  /-- To say what writing the modules would report. -/
  | check (o : Overrides)
  /-- To list the declarations of a header. -/
  | dump (header : Text)
  /-- To say how it is used. -/
  | help
  /-- To say which version it is. -/
  | version
  /-- Nothing that it understands. -/
  | misuse
  deriving DecidableEq, Repr

namespace Request

/-- The options that have a path. -/
inductive PathOption where
  /-- The settings file. -/
  | config
  /-- The header. -/
  | header
  /-- The documentation. -/
  | documentation
  /-- The directory of the output files. -/
  | directory
  deriving DecidableEq, Repr

/-- The option with a long name. -/
def PathOption.ofName? (name : Text) : Option PathOption :=
  ([("config", .config), ("header", .header), ("docs", .documentation), ("out-dir", .directory)] :
    List (Text × PathOption)).lookup name

/-- The option with a short name. -/
def PathOption.ofLetter? : Char → Option PathOption
  | 'c' => some .config
  | 'o' => some .directory
  | _ => none

/-- Give an option its path, which is not empty. An option is given once. -/
def give (o : Overrides) (option : PathOption) (path : Text) : Option Overrides :=
  if path.isEmpty then none
  else
    match option, o with
    | .config, ⟨none, h, d, t⟩ => some ⟨some path, h, d, t⟩
    | .header, ⟨c, none, d, t⟩ => some ⟨c, some path, d, t⟩
    | .documentation, ⟨c, h, none, t⟩ => some ⟨c, h, some path, t⟩
    | .directory, ⟨c, h, d, none⟩ => some ⟨c, h, d, some path⟩
    | _, _ => none

/-- What one argument is by its form. -/
inductive Form where
  /-- The end of the options. -/
  | ending
  /-- A long name, perhaps with a value behind an equals sign. -/
  | long (name : Text) (value : Option Text)
  /-- Short names, one letter each; the last one may have its value behind it. -/
  | short (letters : Text)
  /-- Neither of them. -/
  | plain (t : Text)
  deriving DecidableEq, Repr

/-- The form of an argument. A single hyphen is an argument like any other. -/
def Form.of : Text → Form
  | ['-', '-'] => .ending
  | '-' :: '-' :: t =>
    match Text.cutAt? ['='] t with
    | some (name, value) => .long name (some value)
    | none => .long t none
  | '-' :: c :: t => .short (c :: t)
  | t => .plain t

/-- What is settled by letters that are not options with a path. -/
inductive Letters where
  /-- Nothing is settled. -/
  | done
  /-- The request is settled. -/
  | settled (r : Request)
  /-- An option has its path behind it, or in the next argument. -/
  | option (o : PathOption) (path : Option Text)
  deriving DecidableEq, Repr

/-- The letters that are understood before a command is named. -/
def readFlags : Text → Option Request
  | [] => none
  | 'v' :: t => readFlags t
  | 'V' :: _ => some .version
  | 'h' :: _ => some .help
  | _ :: _ => some .misuse

/-- The letters that are understood behind a command; the flag says whether it has options. -/
def readLetters (options : Bool) : Text → Letters
  | [] => .done
  | 'v' :: t => readLetters options t
  | 'h' :: _ => .settled .help
  | c :: t =>
    match if options then PathOption.ofLetter? c else none with
    | some o =>
      match t with
      | [] => .option o none
      | '=' :: path => .option o (some path)
      | path => .option o (some path)
    | none => .settled .misuse

/-- Read the arguments of a command with options. -/
def readOptions (finish : Overrides → Request) (o : Overrides) : List Text → Request
  | [] => finish o
  | arg :: args =>
    match Form.of arg with
    | .ending => if args.isEmpty then finish o else .misuse
    | .plain _ => .misuse
    | .long name value =>
      match PathOption.ofName? name with
      | some option => assign option value args
      | none =>
        if value.isSome then .misuse
        else if name = ("verbose" : Text) then readOptions finish o args
        else if name = ("help" : Text) then .help
        else .misuse
    | .short letters =>
      match readLetters true letters with
      | .done => readOptions finish o args
      | .settled r => r
      | .option option value => assign option value args
where
  /-- Give an option the path behind it, or else the next argument. -/
  assign (option : PathOption) (value : Option Text) (args : List Text) : Request :=
    match value, args with
    | some path, args =>
      match give o option path with
      | some o => readOptions finish o args
      | none => .misuse
    | none, path :: args =>
      match Form.of path with
      | .plain path =>
        match give o option path with
        | some o => readOptions finish o args
        | none => .misuse
      | _ => .misuse
    | none, [] => .misuse

/-- Read the arguments of the command that has a header and no options. -/
def readHeader (header : Option Text) (ended : Bool) : List Text → Request
  | [] =>
    match header with
    | some path => .dump path
    | none => .misuse
  | arg :: args =>
    match if ended then .plain arg else Form.of arg with
    | .ending => readHeader header true args
    | .plain path =>
      if header.isSome || path.isEmpty then .misuse else readHeader (some path) ended args
    | .long name value =>
      if value.isSome then .misuse
      else if name = ("verbose" : Text) then readHeader header ended args
      else if name = ("help" : Text) then .help
      else .misuse
    | .short letters =>
      match readLetters false letters with
      | .done => readHeader header ended args
      | .settled r => r
      | .option _ _ => .misuse

/-- The names of the commands. -/
def commandNames : List Text := ["generate", "check", "dump", "help"]

/-- Read the arguments behind a question for help: at most the name of a command. -/
def readTopic : List Text → Request
  | [] => .help
  | [name] => if commandNames.contains name then .help else .misuse
  | _ => .misuse

/-- Read a command with its arguments. -/
def readCommand (name : Text) (args : List Text) : Request :=
  if name = ("generate" : Text) then readOptions .generate {} args
  else if name = ("check" : Text) then readOptions .check {} args
  else if name = ("dump" : Text) then readHeader none false args
  else if name = ("help" : Text) then readTopic args
  else .misuse

/-- Read a command line, without the name of the program. -/
def ofArguments : List Text → Request
  | [] => .misuse
  | arg :: args =>
    match Form.of arg with
    | .ending => .misuse
    | .plain name => readCommand name args
    | .long name value =>
      if value.isSome then .misuse
      else if name = ("verbose" : Text) then ofArguments args
      else if name = ("help" : Text) then .help
      else if name = ("version" : Text) then .version
      else .misuse
    | .short letters =>
      match readFlags letters with
      | none => ofArguments args
      | some r => r

end Request

end Bindery
