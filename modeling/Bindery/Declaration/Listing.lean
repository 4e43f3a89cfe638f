import Bindery.Declaration.Basic
import Bindery.Text.Quoted

/-!
# Listing of declarations

A listing shows every part of every declaration, one part to a line and indented by its depth.
It is laid out in two steps: a declaration is turned into an outline of named parts, and the
outline is printed.
-/

namespace Bindery

/-- Nested, named parts. -/
inductive Outline where
  /-- A value on one line. -/
  | leaf (text : Text)
  /-- A value with a name in front. -/
  | field (name : Text) (value : Outline)
  /-- Parts between an opening and a closing. -/
  | block (opening : Text) (parts : List Outline) (closing : Text)

namespace Outline

/-- A line of its own for every part, each ended by a comma; `indent` spaces lead the closing. -/
def render (indent : Nat) : Outline → Text
  | .leaf text => text
  | .field name value => name ++ ": " ++ value.render indent
  | .block opening parts closing =>
    if parts.isEmpty then opening ++ closing
    else opening ++ ['\n'] ++ renderParts (indent + 4) parts ++ List.replicate indent ' ' ++ closing
where
  /-- The lines of the parts of a block. -/
  renderParts (indent : Nat) : List Outline → Text
    | [] => []
    | part :: parts =>
      List.replicate indent ' ' ++ part.render indent ++ ",\n" ++ renderParts indent parts

/-- Named parts between braces. -/
def record (name : Text) (parts : List Outline) : Outline :=
  .block (name ++ " \x7b") parts "\x7d"

/-- Parts between parentheses. -/
def tuple (name : Text) (parts : List Outline) : Outline := .block (name ++ "(") parts ")"

/-- Parts between brackets. -/
def list (parts : List Outline) : Outline := .block "[" parts "]"

/-- A text in quotes. -/
def text (t : Text) : Outline := .leaf (Text.quoted t)

/-- A number in decimal. -/
def number (n : Nat) : Outline := .leaf (Text.ofNat n)

/-- A part that may be missing. -/
def option (f : α → Outline) : Option α → Outline
  | none => .leaf "None"
  | some x => .block "Some(" [f x] ")"

end Outline

open Outline

/-- The parts of a parameter. -/
def Param.outline (p : Param) : Outline :=
  .record "Param" [.field "ty" (.text p.type), .field "name" (.option .text p.name)]

/-- The parts of a signature. -/
def Signature.outline (s : Signature) : Outline :=
  .record "FunctionDecl" [
    .field "return_type" (.text s.result),
    .field "name" (.text s.name),
    .field "params" (.list (s.params.map Param.outline))]

/-- The parts of an enumerator. -/
def Enumerator.outline (e : Enumerator) : Outline :=
  .record "Enumerator" [.field "name" (.text e.name), .field "value" (.option .text e.value)]

/-- The parts of a record. -/
def Record.outline (r : Record) : Outline :=
  .record "RecordDecl" [
    .field "name" (.text r.name), .field "fields" (.list (r.fields.map Param.outline))]

/-- The parts of a declaration. -/
def Declaration.outline : Declaration → Outline
  | .function s => .tuple "Function" [s.outline]
  | .callback s => .tuple "TypedefFunctionPointer" [s.outline]
  | .alias name target =>
    .record "TypedefAlias" [.field "name" (.text name), .field "target" (.text target)]
  | .enumeration name items =>
    .tuple "Enum" [.record "EnumDecl" [
      .field "name" (.option .text name),
      .field "enumerators" (.option (fun es => .list (es.map Enumerator.outline)) items)]]
  | .struct r => .tuple "Struct" [r.outline]
  | .union r => .tuple "Union" [r.outline]
  | .handle name => .record "OpaqueClass" [.field "name" (.text name)]

/-- The number under which the one source of a listing is known. -/
def sourceNumber : Nat := 0

/-- The parts that name the source. -/
def sourceOutline : Outline := .tuple "SourceId" [.number sourceNumber]

/-- The parts of a range. -/
def Span.outline (s : Span) : Outline :=
  .record "Span" [
    .field "source" sourceOutline,
    .field "start" (.number s.start),
    .field "end" (.number s.stop)]

/-- The parts of a declaration and its place. -/
def Located.outline (l : Located) : Outline :=
  .record "Decl" [.field "kind" l.declaration.outline, .field "span" l.span.outline]

/-- The listing of all declarations of a source. -/
def listing (declarations : List Located) : Text :=
  Outline.render 0 <| .record "Header" [
    .field "source" sourceOutline,
    .field "decls" (.list (declarations.map Located.outline))]

end Bindery
