import Bindery.Documentation.Comment

/-!
# Bindings

A binding is what a declaration becomes in the target language, with a place for the comment on
it. Only when the place is filled does it turn into blocks of text: the code is fixed before any
documentation is looked at.
-/

namespace Bindery

/-- What a declaration becomes. -/
inductive Binding where
  /-- Blocks that take no comment. -/
  | plain (blocks : List Text)
  /-- The forms of a procedure; the comment goes into the last one. -/
  | procedure (forms : List Text)
  /-- The head and the members of an enumeration; the comment goes behind the head. -/
  | enumeration (head members : Text)
  /-- The head and the fields of an object; the comment goes between them. -/
  | object (head : Text) (fields : List Text)
  deriving DecidableEq, Repr

namespace Binding

/-- Whether the binding has a place for a comment. -/
def takesComment : Binding → Bool
  | plain _ => false
  | _ => true

/-- Put a comment under the first line of a form, or behind a form of at most two lines. -/
def commentForm (comment form : Text) : Text :=
  if Text.lineFeeds form ≤ 1 then form ++ ['\n'] ++ comment
  else
    match Text.lines form with
    | first :: rest => Text.unlines (first :: comment :: rest)
    | [] => comment

/-- Put a comment into the last form. -/
def commentLast (comment : Text) : List Text → List Text
  | [] => []
  | [form] => [commentForm comment form]
  | form :: forms => form :: commentLast comment forms

/-- The blocks of a binding with a comment, or without one. -/
def blocks (comment : Option Text) : Binding → List Text
  | plain blocks => blocks
  | procedure forms =>
    [Text.unlines (match comment with
      | some c => commentLast c forms
      | none => forms)]
  | enumeration head members => [head ++ comment.getD [], members]
  | object head fields => head :: comment.toList ++ fields

/-- A binding without a place for a comment shows none. -/
theorem blocks_of_not_takesComment {b : Binding} (h : b.takesComment = false)
    (comment : Option Text) : b.blocks comment = b.blocks none := by
  cases b <;> simp_all [takesComment, blocks]

end Binding

end Bindery
