import Bindery.Text.Word
import Bindery.Text.Table.Hidden

/-!
# Quoted text for inspection

Inside double quotes, the quote and the backslash are escaped, the usual controls have short
names, and every other character that would not show by itself is written by its code point.
-/

namespace Bindery.Text

/-- A character that shows nothing when printed. -/
def isHidden (c : Char) : Bool :=
  if c.toNat < 128 then c.toNat < 32 || c.toNat == 127 else inIntervals hiddenIntervals c.toNat

/-- A character that extends the one before it. -/
def isExtender (c : Char) : Bool :=
  if c.toNat < 128 then false else inIntervals extenderIntervals c.toNat

/-- The lowercase hexadecimal digits of a number. -/
def hex (n : Nat) : Text := Nat.toDigits 16 n

/-- A character as it stands between the quotes. -/
def quoteChar (c : Char) : Text :=
  if c.toNat = 0 then "\\0"
  else if c = '\t' then "\\t"
  else if c = '\r' then "\\r"
  else if c = '\n' then "\\n"
  else if c = '"' then "\\\""
  else if c = '\\' then "\\\\"
  else if isExtender c || isHidden c then "\\u\x7b" ++ hex c.toNat ++ "\x7d"
  else [c]

/-- A text between double quotes. -/
def quoted (t : Text) : Text := ['"'] ++ t.flatMap quoteChar ++ ['"']

end Bindery.Text
