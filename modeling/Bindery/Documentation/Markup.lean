import Bindery.Text.Blank
import Bindery.Text.Search
import Bindery.Text.Word
import Bindery.Naming

/-!
# Markup of documentation

Documentation marks its parts with backslash commands. Each pass over the text deals with one
command: examples are left out, parameters become a list under a heading, names are quoted, and
library names lose their common beginning. Every pass reads what the pass before it wrote.
-/

namespace Bindery.Markup

/-- A character of a name: an ASCII letter, a digit or an underscore. -/
def isNamePart (c : Char) : Bool := Text.isAsciiWord c

/-- The heading that may stand before an example, with the blanks behind it; without the heading,
the text itself. -/
def behindHeading (t : Text) : Text :=
  match Text.after? "Example:" t with
  | some rest => if rest.head?.any Text.isBlank then Text.trimStart rest else t
  | none => t

/-- Recognise an example: from its heading or its opening up to the first closing at the end of a
line that leaves something in between. -/
def exampleRule : Text.Rule := fun _ c t =>
  match Text.after? "\\code" (behindHeading (c :: t)) with
  | some (_ :: inside) =>
    (Text.cutAt? "\\endcode\n" inside).map fun (_, rest) => ⟨[], t.length - rest.length⟩
  | _ => none

/-- Recognise a command with the name behind it, and write the name between two texts. -/
def nameRule (command left right : Text) : Text.Rule := fun _ c t =>
  match Text.after? command (c :: t) with
  | some rest =>
    let name := rest.takeWhile isNamePart
    if name.isEmpty then none
    else some ⟨left ++ name ++ right, command.length + name.length - 1⟩
  | none => none

/-- Recognise the library's beginning at the start of a capitalised word. -/
def referenceRule : Text.Rule := fun last c t =>
  if last.any Text.isWord then none
  else
    match Text.after? libraryLead (c :: t) with
    | some (capital :: _) => if capital.isUpper then some ⟨[], libraryLead.length - 1⟩ else none
    | _ => none

/-- Leave out the examples. -/
def dropExamples (t : Text) : Text := Text.rewrite exampleRule t

/-- Put a heading above the first parameter. -/
def headParameters (t : Text) : Text :=
  Text.replaceFirst "\\param" "*Arguments*:\n\\param" t

/-- Make every parameter an item of a list. -/
def listParameters (t : Text) : Text := Text.rewrite (nameRule "\\param " "- ``" "``: ") t

/-- Quote the names that the text refers to. -/
def quoteNames (t : Text) : Text := Text.rewrite (nameRule "\\a " "``" "``") t

/-- Drop the library's beginning from the types that the text refers to. -/
def dropLeads (t : Text) : Text := Text.rewrite referenceRule t

/-- A block of documentation as the text of a comment. -/
def commentText (block : Text) : Text :=
  let t := dropExamples (Text.trim block)
  let t := Text.replace "\\brief " "" t
  let t := listParameters (headParameters t)
  let t := Text.replace "\\li " "- " t
  let t := Text.replace "\\return " "*Returns:* " (quoteNames t)
  dropLeads t

end Bindery.Markup
