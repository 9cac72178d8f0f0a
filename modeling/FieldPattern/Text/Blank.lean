/-! # Blank characters

A character is blank when it has the Unicode property `White_Space`.  Twenty-five code points
have it, and no others:

* the controls tab to carriage return, the space and `U+0085`;
* `U+00A0`, `U+1680`, `U+2000` to `U+200A`, `U+202F`, `U+205F` and `U+3000`;
* the line and paragraph separators `U+2028` and `U+2029`.

Names, numerals and edited values are trimmed with this class: `trimmed` removes blanks from
both ends and from nowhere else. -/

namespace FieldPattern.Text

/-- Whether `c` has the property `White_Space`. -/
def isBlank (c : Char) : Bool :=
  let n := c.toNat
  (0x9 ≤ n && n ≤ 0xD) || n == 0x20 || n == 0x85 || n == 0xA0 || n == 0x1680
    || (0x2000 ≤ n && n ≤ 0x200A) || n == 0x2028 || n == 0x2029 || n == 0x202F
    || n == 0x205F || n == 0x3000

/-- `s` without the blanks at its end. -/
def trimmedRight (s : List Char) : List Char := (s.reverse.dropWhile isBlank).reverse

/-- `s` without the blanks at its two ends. -/
def trimmed (s : List Char) : List Char := trimmedRight (s.dropWhile isBlank)

/-- `s` without the blanks at its two ends. -/
def trim (s : String) : String := String.ofList (trimmed s.toList)

end FieldPattern.Text
