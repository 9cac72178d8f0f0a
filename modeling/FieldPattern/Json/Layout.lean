import FieldPattern.Json.Text

/-! # The layout of JSON texts

Lists and maps are written over several lines: the brackets stand on lines of their own, and
each item stands on a line between them, two columns further in and followed by a comma unless
it is the last.  A list or map without items is written as its two brackets.

`block` lays out one bracket.  Its items are texts that have been laid out already, for the
column at which they will stand. -/

namespace FieldPattern.Json

/-- Lay out items between brackets that start at column `column`. -/
def block (opening closing : Char) (column : Nat) (items : List (List Char)) : List Char :=
  let line (width : Nat) := '\n' :: List.replicate width ' '
  if items.isEmpty then [opening, closing]
  else
    opening :: List.intercalate [','] (items.map fun item => line (column + 2) ++ item)
      ++ line column ++ [closing]

/-- A list whose items are laid out. -/
def list (column : Nat) (items : List (List Char)) : List Char := block '[' ']' column items

/-- A map whose values are laid out. -/
def map (column : Nat) (members : List (String × List Char)) : List Char :=
  block '{' '}' column (members.map fun (name, value) => encode name ++ [':', ' '] ++ value)

/-- `true` or `false`. -/
def flag (b : Bool) : List Char := if b then "true".toList else "false".toList

end FieldPattern.Json
