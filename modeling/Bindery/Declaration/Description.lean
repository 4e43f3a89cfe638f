import Bindery.Declaration.Basic

/-!
# Short descriptions of declarations

One line for reports: the kind and the name, or for functions the kind and the prototype.
-/

namespace Bindery

/-- Type and name, separated by a space; the type alone without a name. -/
def Param.describe (p : Param) : Text :=
  match p.name with
  | some name => p.type ++ [' '] ++ name
  | none => p.type

/-- The prototype as C would write it. -/
def Signature.describe (s : Signature) : Text :=
  s.result ++ [' '] ++ s.name ++ ['('] ++
    List.intercalate ", " (s.params.map Param.describe) ++ [')']

/-- The kind of declaration, in words. -/
def Declaration.kindName : Declaration → Text
  | .function _ => "function"
  | .callback _ => "callback typedef"
  | .alias _ _ => "typedef"
  | .enumeration _ _ => "enum"
  | .struct _ => "struct"
  | .union _ => "union"
  | .handle _ => "opaque struct"

/-- What a declaration declares. -/
def Declaration.describe (d : Declaration) : Text :=
  d.kindName ++ [' '] ++
    match d with
    | .function s | .callback s => s.describe
    | _ => d.name?.getD anonymous

end Bindery
