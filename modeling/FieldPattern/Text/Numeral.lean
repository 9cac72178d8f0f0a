import FieldPattern.Text.Blank

/-! # Decimal numerals

Indices and counts are written in decimal and lie below `2 ^ 64`.

* A numeral is an optional `+` followed by one or more of the digits `0` to `9`.  Leading
  zeros are allowed; a `-`, a blank or a digit of another script is not.
* `read` reports the first thing that is wrong, from left to right: an empty text, a
  character that is no digit, or a value that has grown past `largest`.
* `digits` writes a number without sign and without leading zeros. -/

namespace FieldPattern.Text.Numeral

/-- The largest value a numeral may have. -/
def largest : Nat := Nat.pow 2 64 - 1

/-- What is wrong with a text that is no numeral. -/
inductive Fault where
  | empty
  | invalidDigit
  | tooLarge
deriving DecidableEq, Repr

namespace Fault

/-- The fault in words. -/
def message : Fault → String
  | empty => "cannot parse integer from empty string"
  | invalidDigit => "invalid digit found in string"
  | tooLarge => "number too large to fit in target type"

end Fault

/-- The value of a decimal digit. -/
def digit? (c : Char) : Option Nat := if c.isDigit then some (c.toNat - '0'.toNat) else none

/-- Read digits to the end of the text, `value` being that of the digits before. -/
def readDigits (value : Nat) : List Char → Except Fault Nat
  | [] => .ok value
  | c :: rest =>
      match digit? c with
      | none => .error .invalidDigit
      | some d =>
          if 10 * value + d ≤ largest then readDigits (10 * value + d) rest
          else .error .tooLarge

/-- Read a numeral that fills the whole text. -/
def read : List Char → Except Fault Nat
  | [] => .error .empty
  | ['+'] => .error .invalidDigit
  | '+' :: rest => readDigits 0 rest
  | s => readDigits 0 s

/-- The decimal digits of `n`. -/
def digits (n : Nat) : List Char := Nat.toDigits 10 n

/-- The text of `n`. -/
def render (n : Nat) : String := String.ofList (digits n)

end FieldPattern.Text.Numeral
