import Bindery.Text.Basic

/-!
# TOML documents

A value is what stands behind an equals sign. A document is a tree of tables with values at its
leaves, and every table remembers how it came about, because that decides what may be added to it.
-/

namespace Bindery.Toml

/-- What can stand behind an equals sign. -/
inductive Value where
  /-- A text in quotes. -/
  | text (t : Text)
  /-- A whole number. -/
  | integer (n : Int)
  /-- A number with a fraction or an exponent. -/
  | float
  /-- A truth value. -/
  | boolean (b : Bool)
  /-- A date, a time of day or both. -/
  | moment
  /-- Values in brackets. -/
  | array (items : List Value)
  /-- Named values in braces. -/
  | table (entries : List (Text × Value))
  deriving Repr

/-- How a table came about. -/
inductive Origin where
  /-- By a header of its own. -/
  | header
  /-- By the header of a table inside it. -/
  | implied
  /-- By a dotted key. -/
  | dotted
  deriving DecidableEq, Repr

/-- A part of a document. -/
inductive Node where
  /-- A value. -/
  | value (v : Value)
  /-- A table. -/
  | table (origin : Origin) (entries : List (Text × Node))
  /-- Tables under one repeated header. -/
  | tables (all : List (List (Text × Node)))
  deriving Repr

/-- The named parts of a table, in order. -/
abbrev Entries := List (Text × Node)

/-- A key with the keys of the tables that lead to it, and the value to be stored there. -/
structure Pair where
  /-- The keys of the tables. -/
  path : List Text
  /-- The key in the last table. -/
  key : Text
  /-- The value. -/
  value : Value
  deriving Repr

/-- The header of a table, with the keys that lead to it. -/
structure Heading where
  /-- Whether the header may be repeated, every time for another table. -/
  repeated : Bool
  /-- The keys of the tables around it. -/
  path : List Text
  /-- The key of the table. -/
  key : Text
  deriving DecidableEq, Repr

/-- A line that is neither blank nor a comment. -/
inductive Line where
  /-- A key and its value. -/
  | pair (p : Pair)
  /-- A header. -/
  | heading (h : Heading)
  deriving Repr

end Bindery.Toml
