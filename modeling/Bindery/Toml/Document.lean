import Bindery.Toml.Reader

/-!
# From lines to a document

Lines are added to a document one after the other, and each has to fit. A value is stored under a
new key; a table is opened by one header, before or after the tables inside it; and a table that a
dotted key made is only added to by dotted keys, from the same place.
-/

namespace Bindery.Toml

/-- Store another part under a key that is there. -/
def setPart (key : Text) (node : Node) (es : Entries) : Entries :=
  es.map fun (k, n) => if k = key then (k, node) else (k, n)

/-- Whether there is a part under a key. -/
def hasPart (key : Text) (es : Entries) : Bool := (es.lookup key).isSome

/-- Store a value under a new key. -/
def addValue (key : Text) (v : Value) (es : Entries) : Option Entries :=
  if hasPart key es then none else some (es ++ [(key, .value v)])

/-- Store a value behind a dotted key. The last table on the way has to be one that dotted keys
made, and none on the way may have a header of its own; of tables under a repeated header the last
one is meant. -/
def addDotted (key : Text) (v : Value) : List Text → Entries → Option Entries
  | [], es => addValue key v es
  | k :: path, es =>
    match es.lookup k with
    | none => do return es ++ [(k, .table .dotted (← addDotted key v path []))]
    | some (.table .header _) => none
    | some (.table .implied inner) =>
      if path.isEmpty then none
      else do return setPart k (.table .implied (← addDotted key v path inner)) es
    | some (.table .dotted inner) => do
      return setPart k (.table .dotted (← addDotted key v path inner)) es
    | some (.tables all) =>
      match path, all.getLast? with
      | _ :: _, some inner => do
        return setPart k (.tables (all.dropLast ++ [← addDotted key v path inner])) es
      | _, _ => none
    | some (.value _) => none

/-- Store pairs in order. -/
def addPairs (pairs : List Pair) (es : Entries) : Option Entries :=
  pairs.foldlM (fun es p => addDotted p.key p.value p.path es) es

/-- Change the table to which keys lead; tables that are not there yet are implied by that. -/
def within (change : Entries → Option Entries) : List Text → Entries → Option Entries
  | [], es => change es
  | k :: path, es =>
    match es.lookup k with
    | none => do return es ++ [(k, .table .implied (← within change path []))]
    | some (.table origin inner) => do
      return setPart k (.table origin (← within change path inner)) es
    | some (.tables all) =>
      match all.getLast? with
      | some inner => do
        return setPart k (.tables (all.dropLast ++ [← within change path inner])) es
      | none => none
    | some (.value _) => none

/-- Open a table and store its pairs. A table that was only implied so far is opened now. -/
def openTable (key : Text) (pairs : List Pair) (es : Entries) : Option Entries :=
  match es.lookup key with
  | none => do return es ++ [(key, .table .header (← addPairs pairs []))]
  | some (.table .implied inner) => do
    return es.filter (·.1 ≠ key) ++ [(key, .table .header (← addPairs pairs inner))]
  | _ => none

/-- Open another table under a repeated header and store its pairs. -/
def openNext (key : Text) (pairs : List Pair) (es : Entries) : Option Entries := do
  let table ← addPairs pairs []
  match es.lookup key with
  | none => some (es ++ [(key, .tables [table])])
  | some (.tables all) => some (setPart key (.tables (all ++ [table])) es)
  | _ => none

/-- The pairs before the first header, and every header with the pairs below it. -/
def sections : List Line → List Pair × List (Heading × List Pair)
  | [] => ([], [])
  | .pair p :: lines =>
    let (pairs, rest) := sections lines
    (p :: pairs, rest)
  | .heading h :: lines =>
    let (pairs, rest) := sections lines
    ([], (h, pairs) :: rest)

/-- Add a header with the pairs below it. -/
def addSection (es : Entries) (s : Heading × List Pair) : Option Entries :=
  let (h, pairs) := s
  within (if h.repeated then openNext h.key pairs else openTable h.key pairs) h.path es

/-- The document of some lines, if each of them fits. -/
def ofLines (lines : List Line) : Option Entries := do
  let (pairs, rest) := sections lines
  rest.foldlM addSection (← addPairs pairs [])

/-- The value of a part that holds no tables under repeated headers. -/
def Node.toValue? : Node → Option Value
  | .value v => some v
  | .table _ es => (valuesOf es).map .table
  | .tables _ => none
where
  /-- The values of named parts. -/
  valuesOf : Entries → Option (List (Text × Value))
    | [] => some []
    | (k, n) :: es => do return (k, ← n.toValue?) :: (← valuesOf es)

/-- The table that pairs in braces make. -/
def tableOf? (pairs : List Pair) : Option Value := do
  (Node.table .dotted (← addPairs pairs [])).toValue?

/-- Take a value. Brackets are entered at most so deep. -/
def takeValue? : Nat → Text → Option (Value × Text)
  | depth, t =>
    match t with
    | [] => none
    | c :: rest =>
      if c == '"' || c == Char.ofNat 39 then
        (takeQuoted? t).map fun (text, rest) => (.text text, rest)
      else if c == '[' then
        match depth with
        | 0 => none
        | inner + 1 => (takeItems? (takeValue? inner) rest).map fun (vs, rest) => (.array vs, rest)
      else if c == '{' then
        match depth with
        | 0 => none
        | inner + 1 => do
          let (pairs, rest) ← takeBody? (takeValue? inner) rest
          return (← tableOf? pairs, rest)
      else takeScalar? t

/-- Take a header behind its opening. -/
def takeHeading? (repeated : Bool) (t : Text) : Option (Heading × Text) := do
  let (keys, rest) ← takePath? depthLimit t
  let (path, key) := splitLast keys
  let rest ← Text.after? (if repeated then "]]" else "]") rest
  return (⟨repeated, path, key⟩, rest)

/-- Take a line that is not blank, without its end. -/
def takeLine? (t : Text) : Option (Line × Text) :=
  match t with
  | '[' :: '[' :: rest => (takeHeading? true rest).map fun (h, rest) => (.heading h, rest)
  | '[' :: rest => (takeHeading? false rest).map fun (h, rest) => (.heading h, rest)
  | _ => (takePair? (takeValue? depthLimit) t).map fun (p, rest) => (.pair p, rest)

/-- Read all lines. -/
def lines? (t : Text) : Option (List Line) :=
  match skipBlank t with
  | [] => some []
  | front => do
    let (line, rest) ← takeLine? front
    let rest ← lineEnd? rest
    if rest.length < t.length then return line :: (← lines? rest) else none
termination_by t.length

/-- Without the mark of the byte order at the front. -/
def dropOrderMark (t : Text) : Text :=
  match t with
  | c :: rest => if c.toNat = 0xFEFF then rest else t
  | [] => []

/-- Read a document. -/
def read? (t : Text) : Option Entries := do ofLines (← lines? (dropOrderMark t))

end Bindery.Toml
