import Bindery.Header.Piece

/-!
# Readers

A reader gives all the ways in which the front of a list of pieces can be read. The weights of
parts add up. Two ways that leave the same rest compete, and the heavier one counts; of two equal
ones the first does. `all` reads a whole list as a sequence of entries in this sense: it keeps one
way of reading up to each place, so the work does not multiply.
-/

namespace Bindery.Header

/-- One way to read the front of a list of pieces. -/
structure Parse (α : Type) where
  /-- What was read. -/
  value : α
  /-- How well it fits. -/
  weight : Int
  /-- What is left. -/
  rest : List Piece

/-- All the ways to read the front of a list of pieces, the preferred ones first. -/
def Reader (α : Type) : Type := List Piece → List (Parse α)

namespace Parse

/-- Where the rest begins; nowhere if nothing is left. -/
def place {α : Type} (x : Parse α) : Option Nat := x.rest.head?.map Piece.place

/-- Whether one place comes before another; nowhere comes last. -/
def precedes : Option Nat → Option Nat → Bool
  | some a, some b => a < b
  | some _, none => true
  | none, _ => false

/-- Add a way to read to others that are ordered by their places. -/
def insert {α : Type} (x : Parse α) : List (Parse α) → List (Parse α)
  | [] => [x]
  | y :: ys =>
    if x.place == y.place then (if y.weight < x.weight then x else y) :: ys
    else if precedes x.place y.place then x :: y :: ys
    else y :: insert x ys

end Parse

namespace Reader

variable {α β : Type}

instance : Monad Reader where
  pure a := fun ps => [⟨a, 0, ps⟩]
  bind r f := fun ps =>
    (r ps).flatMap fun x => (f x.value x.rest).map fun y => { y with weight := x.weight + y.weight }

/-- Either of two ways. -/
instance : OrElse (Reader α) where
  orElse r s := fun ps => r ps ++ s () ps

/-- No way at all. -/
def fail : Reader α := fun _ => []

/-- Take one piece. -/
def piece (f : Piece → Option α) : Reader α
  | [] => []
  | p :: ps => (f p).toList.map (⟨·, 0, ps⟩)

/-- Take one piece that has a property. -/
def satisfying (f : Piece → Bool) : Reader Piece := piece fun p => if f p then some p else none

/-- Take one punctuation character. -/
def mark (c : Char) : Reader Unit := piece fun p => if p.isMark c then some () else none

/-- What is left behind punctuation characters that follow one another without a gap. -/
def behindSymbol : Text → List Piece → Option (List Piece)
  | [], ps => some ps
  | [c], p :: ps => if p.isMark c then some ps else none
  | c :: d :: cs, p :: q :: ps =>
    if p.isMark c && q.adjoins then behindSymbol (d :: cs) (q :: ps) else none
  | _, _ => none

/-- Take punctuation characters that follow one another without a gap. -/
def symbol (cs : Text) : Reader Unit := fun ps => (behindSymbol cs ps).toList.map (⟨(), 0, ·⟩)

/-- Take one of some words. -/
def word (words : List Text) : Reader Unit :=
  piece fun p => if p.isOneOf words then some () else none

/-- Take a word that has no meaning here and so is a name. -/
def name (reserved : List Text) : Reader Text :=
  piece fun p => p.word?.filter fun w => !reserved.contains w

/-- Take a group by one of its readings. -/
def group (opening : Char) (f : Readings → Option (Weighted α)) : Reader α
  | [] => []
  | p :: ps =>
    if p.isGroup opening then (f p.readings).toList.map fun w => ⟨w.value, w.weight, ps⟩ else []

/-- Take a group whose inside has a property. -/
def groupOf (opening : Char) (f : List Piece → Bool) : Reader Unit :=
  piece fun p => (p.inside? opening).bind fun inside => if f inside then some () else none

/-- Take statements in braces. -/
def block : Reader Unit :=
  piece fun p => if p.isGroup '{' && p.readings.block then some () else none

/-- Change the weight. -/
def weigh (w : Int) : Reader Unit := fun ps => [⟨(), w, ps⟩]

/-- Look at what is left. -/
def check (f : List Piece → Bool) : Reader Unit := fun ps => if f ps then [⟨(), 0, ps⟩] else []

/-- Skip what a function takes from the front. -/
def skip (f : List Piece → List Piece) : Reader Unit := fun ps => [⟨(), 0, f ps⟩]

/-- With or without. -/
def optional (r : Reader α) : Reader (Option α) :=
  (do let a ← r; return some a) <|> pure none

/-- Let one way of reading count for each place where readings end. -/
def settle (r : Reader α) : Reader α := fun ps => (r ps).foldl (fun xs x => x.insert xs) []

/-- Read, and give the pieces that were read as well. -/
def withSource (r : Reader α) : Reader (α × List Piece) := fun ps =>
  (r ps).map fun x => { x with value := (x.value, ps.takeWhile (·.precedes x.place)) }

/-- Read things with a separator between them, at least one and at most so many. -/
def separatedUpTo (separator : Reader Unit) (r : Reader α) : Nat → Reader (List α)
  | 0 => fail
  | n + 1 => do
    let a ← r
    (do separator; let as ← separatedUpTo separator r n; return a :: as) <|> pure [a]

/-- Read one thing, or several with a separator between them. -/
def separated (separator : Reader Unit) (r : Reader α) : Reader (List α) := fun ps =>
  separatedUpTo separator r ps.length ps

/-- Read one thing, or several with commas between them. -/
def commas (r : Reader α) : Reader (List α) := separated (mark ',') r

/-- A row of entries that has been read: each with its pieces, the last one first. -/
abbrev Row (α : Type) := List (α × List Piece)

/-- The ways to read one entry more; an entry takes at least one piece. -/
def extend (entry : Reader α) (x : Parse (Row α)) : List (Parse (Row α)) :=
  (entry x.rest).filterMap fun y =>
    match x.rest.takeWhile (·.precedes y.place) with
    | [] => none
    | source =>
      some ⟨(y.value, source) :: x.value, x.weight + y.weight,
        x.rest.dropWhile (·.precedes y.place)⟩

/-- Go on reading entries until nothing is left, from the ways of having read so far, ordered by
their places. -/
def allFrom (entry : Reader α) : Nat → List (Parse (Row α)) → Option (Weighted (Row α))
  | 0, _ => none
  | _, [] => none
  | n + 1, x :: xs =>
    match x.rest with
    | [] => some ⟨x.value.reverse, x.weight⟩
    | _ :: _ => allFrom entry n ((extend entry x).foldl (fun zs y => y.insert zs) xs)

/-- Read all pieces as a row of entries, and give each entry with its pieces. -/
def allWithSource (entry : Reader α) (ps : List Piece) : Option (Weighted (Row α)) :=
  allFrom entry (ps.length + 1) [⟨[], 0, ps⟩]

/-- Read all pieces as a row of entries. -/
def all (entry : Reader α) (ps : List Piece) : Option (Weighted (List α)) :=
  (allWithSource entry ps).map fun w => ⟨w.value.map (·.1), w.weight⟩

/-- Read all pieces as one thing. -/
def whole (r : Reader α) (ps : List Piece) : Option (Weighted α) :=
  match (settle r ps).getLast? with
  | some x => if x.rest.isEmpty then some ⟨x.value, x.weight⟩ else none
  | none => none

/-- Read all pieces as things with commas between them; the flag says that a comma may end them. -/
def list (trailing : Bool) (r : Reader α) (ps : List Piece) : Option (Weighted (List α)) :=
  if ps.isEmpty then some ⟨[], 0⟩
  else
    all (do
      let a ← r
      check List.isEmpty <|> do
        mark ','
        check fun rest => trailing || !rest.isEmpty
      return a) ps

/-- Forget what was read. -/
def forget (w : Option (Weighted α)) : Option (Weighted Unit) := w.map fun w => ⟨(), w.weight⟩

end Reader

end Bindery.Header
