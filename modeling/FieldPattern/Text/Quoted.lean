import FieldPattern.Text.Numbered

/-! # Quoted text

A value that is reported to the reader stands between double quotation marks, in a form that
shows every character:

* the quotation mark and the backslash are preceded by a backslash;
* NUL, tab, newline and carriage return are written `\0`, `\t`, `\n` and `\r`;
* a character of `isNumbered` is written as its number, in lower-case hexadecimal without
  leading zeros, as in `\u{200b}`;
* every other character stands for itself, the apostrophe included. -/

namespace FieldPattern.Text

/-- The lower-case hexadecimal digits of `n`, without leading zeros. -/
def hexDigits (n : Nat) : List Char := Nat.toDigits 16 n

/-- How `c` is written between quotation marks. -/
def escaped (c : Char) : List Char :=
  if c = '\x00' then ['\\', '0']
  else if c = '\t' then ['\\', 't']
  else if c = '\n' then ['\\', 'n']
  else if c = '\r' then ['\\', 'r']
  else if c = '"' then ['\\', '"']
  else if c = '\\' then ['\\', '\\']
  else if isNumbered c then ['\\', 'u', '{'] ++ hexDigits c.toNat ++ ['}']
  else [c]

/-- `s` between quotation marks. -/
def quoted (s : String) : String := String.ofList ('"' :: s.toList.flatMap escaped ++ ['"'])

end FieldPattern.Text
