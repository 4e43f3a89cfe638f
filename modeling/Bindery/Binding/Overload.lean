import Bindery.TypeName

/-!
# Forms of a procedure

A parameter that is only read may be given by value, although the foreign procedure takes it by
reference. Every choice of such parameters is a form of its own: the foreign procedure itself,
where none is chosen, and otherwise an adapter that passes on copies of the chosen ones. Choices
are numbered, and the binary digits of the number say what is chosen, the first parameter by the
highest digit.
-/

namespace Bindery

/-- A parameter of a procedure. -/
structure BoundParam where
  /-- The name. -/
  name : Text
  /-- The type. -/
  type : Text
  /-- Whether it may also be given by value. -/
  byValue : Bool
  deriving DecidableEq, Repr

/-- What all forms of a procedure have in common. -/
structure ProcedureHead where
  /-- The name. -/
  name : Text
  /-- The type of the result, if there is one. -/
  result : Option Text
  /-- Whether other modules see the procedure. -/
  exported : Bool
  /-- Whether it is called as an assignment. -/
  setter : Bool
  /-- The foreign name. -/
  symbol : Text
  deriving DecidableEq, Repr

/-- The elements that a number chooses, the first one by the highest of as many binary digits. -/
def chosen (mask : Nat) : List α → List α
  | [] => []
  | x :: xs => if mask.testBit xs.length then x :: chosen mask xs else chosen mask xs

/-- All choices, in the order of their numbers. The numbers have no bound here; those of a word of 64
bits give the same choices of fewer than 64 elements (`choicesByWord_eq`). -/
def choices (xs : List α) : List (List α) :=
  (List.range (Nat.pow 2 xs.length)).map fun mask => chosen mask xs

namespace ProcedureHead

/-- The name as it stands in declarations and calls. -/
def callee (h : ProcedureHead) : Text :=
  if h.setter then ("`" : Text) ++ h.name ++ "=`" else h.name

/-- The first line of a form, given its parameters in writing. -/
def declare (h : ProcedureHead) (params : Text) : Text :=
  "proc " ++ h.callee ++ (if h.exported then ['*'] else []) ++ ['('] ++ params ++ [')'] ++
    match h.result with
    | some type => ": " ++ type
    | none => []

/-- A list of things on one line. -/
def enumerate (ts : List Text) : Text := List.intercalate ", " ts

/-- A parameter in writing; the flag says that it is chosen to be given by value. -/
def renderParam (p : BoundParam) (value : Bool) : Text :=
  p.name ++ ": " ++
    if !p.byValue then p.type
    else if value then dereference p.type
    else "(" ++ p.type ++ ")\x7blvalue\x7d"

/-- The parameters of a form in writing, of which those at some places are given by value. -/
def writtenParams (params : List BoundParam) (places : List Nat) : List Text :=
  params.zipIdx.map fun p => renderParam p.1 (places.contains p.2)

/-- The name of the copy of a parameter. -/
def copyName (name : Text) : Text := 'C' :: name

/-- The form in which the parameters at some places are given by value. -/
def form (h : ProcedureHead) (params : List BoundParam) (places : List Nat) : Text :=
  let head := h.declare (enumerate (writtenParams params places))
  if places.isEmpty then
    head ++ " \x7b.\n  cdecl, importc: \"" ++ h.symbol ++ "\".\x7d"
  else
    let copies := places.filterMap fun i => params[i]?.map fun p =>
      ("var " : Text) ++ copyName p.name ++ " = " ++ p.name
    let arguments := params.zipIdx.map fun (p, i) =>
      if places.contains i then copyName p.name else p.name
    head ++ " =\n  (" ++ List.intercalate "; " copies ++ ")\n  " ++ h.callee ++ ['('] ++
      enumerate arguments ++ [')']

/-- The places of the parameters that may be given by value. -/
def places (params : List BoundParam) : List Nat :=
  (params.zipIdx.filter (·.1.byValue)).map (·.2)

/-- All forms of a procedure, the foreign one first; a form that equals an earlier one is left
out. -/
def forms (h : ProcedureHead) (params : List BoundParam) : List Text :=
  ((choices (places params)).map (h.form params)).eraseDups

end ProcedureHead

end Bindery
