import FieldPattern.Shell.Bytes

/-! # Numbers of a shell

An integer has 64 bits and a sign.  It is written in decimal, or, where that is allowed, with
`0x` in hexadecimal, with `0b` in binary or with `0` in octal; blanks may stand before it.

* `leading?` reads the integer at the start of a text and gives what follows it.  A value that
  is too large or too small becomes the largest or the smallest integer.
* `strict?` reads an integer that fills the text but for blanks. -/

namespace FieldPattern.Shell

/-- The value of a digit, letters counting from ten. -/
def digitValue (c : Char) : Nat :=
  if c.isDigit then c.toNat - '0'.toNat
  else if c.isUpper then c.toNat - 'A'.toNat + 10
  else if c.isLower then c.toNat - 'a'.toNat + 10
  else 99

/-- Whether `c` is a digit in this base. -/
def isDigitIn (base : Nat) (c : Char) : Bool := digitValue c < base

/-- The number that digits write in this base. -/
def numberIn (base : Nat) (digits : List Char) : Nat :=
  digits.foldl (fun v c => base * v + digitValue c) 0

namespace Integer

/-- The largest integer. -/
def largest : Int := (Nat.pow 2 63 : Nat) - 1

/-- The smallest integer. -/
def smallest : Int := -(Nat.pow 2 63 : Nat)

/-- The integer nearest to `n`. -/
def clamp (n : Int) : Int := if n < smallest then smallest else if largest < n then largest else n

/-- Whether `n` is an integer of a shell. -/
def fits (n : Int) : Bool := smallest ≤ n && n ≤ largest

/-- The sign at the start of a text, and what follows it. -/
def sign (s : List Char) : Bool × List Char :=
  match s with
  | '-' :: rest => (true, rest)
  | '+' :: rest => (false, rest)
  | s => (false, s)

/-- The base of the digits at the start of a text, and the digits with what follows. -/
def base (s : List Char) : Nat × List Char :=
  match s with
  | '0' :: x :: d :: rest =>
      if (x == 'x' || x == 'X') && isDigitIn 16 d then (16, d :: rest)
      else if (x == 'b' || x == 'B') && isDigitIn 2 d then (2, d :: rest)
      else (8, s)
  | '0' :: _ => (8, s)
  | s => (10, s)

/-- The integer at the start of a text, whatever its size, and what follows it. -/
def leadingUnbounded? (decimal : Bool) (s : List Char) : Option (Int × List Char) :=
  let (negative, s) := sign (s.dropWhile isSpace)
  let (b, s) := if decimal then (10, s) else base s
  let digits := s.takeWhile (isDigitIn b)
  if digits.isEmpty then none
  else
    let n : Int := numberIn b digits
    some (if negative then -n else n, s.drop digits.length)

/-- The integer at the start of a text, and what follows it. -/
def leading? (decimal : Bool) (s : List Char) : Option (Int × List Char) :=
  (leadingUnbounded? decimal s).map fun (n, rest) => (clamp n, rest)

/-- The integer that fills a text but for blanks around it; an empty text is no decimal number,
but counts as `0` otherwise. -/
def strict? (decimal : Bool) (s : String) : Option Int :=
  match leadingUnbounded? decimal s.toList with
  | none => if !decimal && s.toList.all isSpace then some 0 else none
  | some (n, rest) => if rest.all isSpace && fits n then some n else none

/-- A count or an exit status: a decimal number that is not negative, and not too large. -/
def count? (s : String) : Option Nat :=
  (strict? true s).bind fun n => if 0 ≤ n && n < (Nat.pow 2 31 : Nat) then some n.toNat else none

/-- A count that is written in digits alone. -/
def digits? (s : String) : Option Nat :=
  if s.toList.all Char.isDigit then count? s else none

/-- The text of an integer. -/
def render (n : Int) : String :=
  let digits := String.ofList (Nat.toDigits 10 n.natAbs)
  if n < 0 then "-" ++ digits else digits

end Integer

end FieldPattern.Shell
