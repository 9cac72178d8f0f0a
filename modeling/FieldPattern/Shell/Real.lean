import FieldPattern.Shell.Number

/-! # Text of real numbers

`printf` reads a real number, and writes it with a given number of places, in one of four
notations: fixed, with an exponent, whichever of these two suits its size, or in hexadecimal
digits with a power of two.

What is read is rounded to a number of binary digits (`Precision`); the result is taken for the
fraction that it is exactly.  Where a number is rounded, a half goes to the even neighbour. -/

namespace FieldPattern.Shell.Real

/-- A number that is not negative: a fraction, or no number at all. -/
inductive Magnitude where
  | fraction (numerator denominator : Nat)
  | infinite
  | notANumber
deriving DecidableEq, Repr

/-- How exactly numbers are kept. -/
structure Precision where
  /-- The number of binary digits. -/
  digits : Nat
  /-- The power of two of the smallest number. -/
  least : Int
  /-- The power of two that is too large. -/
  bound : Nat
  /-- The number of binary digits before the point in the hexadecimal notation. -/
  lead : Nat

/-- The precision of doubles. -/
def Precision.double : Precision := ⟨53, -1074, 1024, 1⟩

/-- The precision of extended doubles. -/
def Precision.extended : Precision := ⟨64, -16445, 16384, 4⟩

/-- The quotient rounded to the nearest integer, a half to the even one. -/
def rounded (numerator denominator : Nat) : Nat :=
  let q := numerator / denominator
  let r := 2 * (numerator % denominator)
  if r < denominator ∨ (r = denominator ∧ q % 2 = 0) then q else q + 1

/-- `numerator / denominator * 2 ^ power`, as a numerator and a denominator. -/
def shifted (numerator denominator : Nat) (power : Int) : Nat × Nat :=
  if 0 ≤ power then (numerator * Nat.pow 2 power.toNat, denominator)
  else (numerator, denominator * Nat.pow 2 (-power).toNat)

/-- The power of two of the first binary digit of a fraction that is not zero. -/
def binaryExponent (numerator denominator : Nat) : Int :=
  let guess : Int := Nat.log2 numerator - Nat.log2 denominator
  let (n, d) := shifted numerator denominator (-guess)
  if d ≤ n then guess else guess - 1

/-- The number that is nearest to a fraction, and whether the fraction is in range: neither so
large that the number is infinite, nor so small that it has lost digits. -/
def Precision.nearest (p : Precision) (numerator denominator : Nat) : Magnitude × Bool :=
  if numerator = 0 then (.fraction 0 1, true)
  else
    let e := binaryExponent numerator denominator
    let q := max (e + 1 - p.digits) p.least
    let (n, d) := shifted numerator denominator (-q)
    let (n, d) := shifted (rounded n d) 1 q
    if d * Nat.pow 2 p.bound ≤ n then (.infinite, false)
    else (.fraction n d, p.least + p.digits - 1 ≤ e || n * denominator = d * numerator)

/-- `numerator / denominator * 10 ^ power`, rounded. -/
def scaled (numerator denominator : Nat) (power : Int) : Nat :=
  if 0 ≤ power then rounded (numerator * Nat.pow 10 power.toNat) denominator
  else rounded numerator (denominator * Nat.pow 10 (-power).toNat)

/-- Digits with a point before the last `places` of them. -/
def withPoint (keepPoint : Bool) (places : Nat) (n : Nat) : List Char :=
  let ds := Nat.toDigits 10 n
  let ds := List.replicate (places + 1 - ds.length) '0' ++ ds
  let whole := ds.take (ds.length - places)
  let fraction := ds.drop (ds.length - places)
  whole ++ (if fraction.isEmpty && !keepPoint then [] else '.' :: fraction)

/-- The fixed notation with this many places. -/
def fixed (keepPoint : Bool) (places numerator denominator : Nat) : List Char :=
  withPoint keepPoint places (scaled numerator denominator places)

/-- The power of ten of the first digit, and the digits rounded to `places` after the first. -/
def leading (places numerator denominator : Nat) : Int × Nat :=
  if numerator = 0 then (0, 0)
  else
    let guess : Int := (Nat.toDigits 10 numerator).length - (Nat.toDigits 10 denominator).length
    let below : Int := guess - 1
    let atLeast (e : Int) : Bool :=
      if 0 ≤ e then denominator * Nat.pow 10 e.toNat ≤ numerator
      else denominator ≤ numerator * Nat.pow 10 (-e).toNat
    let e := if atLeast guess then guess else below
    let n := scaled numerator denominator (places - e)
    if n = Nat.pow 10 (places + 1) then (e + 1, n / 10) else (e, n)

/-- The exponent of the notation with exponent: a letter, a sign and at least two digits. -/
def exponent (upper : Bool) (e : Int) : List Char :=
  let ds := Nat.toDigits 10 e.natAbs
  [if upper then 'E' else 'e', if e < 0 then '-' else '+']
    ++ List.replicate (2 - ds.length) '0' ++ ds

/-- The notation with exponent and this many places. -/
def scientific (keepPoint upper : Bool) (places numerator denominator : Nat) : List Char :=
  let (e, n) := leading places numerator denominator
  withPoint keepPoint places n ++ exponent upper e

/-- The digits without zeros at the end, and without a point at the end. -/
def withoutZeros (s : List Char) : List Char :=
  if s.contains '.' then ((s.reverse.dropWhile (· == '0')).dropWhile (· == '.')).reverse else s

/-- The notation that suits the size of the number, with this many digits. -/
def general (keepZeros upper : Bool) (digits numerator denominator : Nat) : List Char :=
  let digits := if digits = 0 then 1 else digits
  let (e, n) := leading (digits - 1) numerator denominator
  let trim (s : List Char) := if keepZeros then s else withoutZeros s
  if -4 ≤ e ∧ e < digits then
    trim (fixed keepZeros (digits - 1 - e : Int).toNat numerator denominator)
  else trim (withPoint keepZeros (digits - 1) n) ++ exponent upper e

/-- The hexadecimal notation without its `0x`; without a number of places, with as many as it
takes. -/
def hexadecimal (p : Precision) (keepPoint upper : Bool) (places : Option Nat)
    (numerator denominator : Nat) : List Char :=
  let e : Int := if numerator = 0 then 0
    else max (binaryExponent numerator denominator) (p.least + p.digits - 1)
  let e := if numerator = 0 then 0 else e + 1 - p.lead
  let count := places.getD ((p.digits - p.lead + 3) / 4)
  let (n, d) := shifted numerator denominator (4 * count - e)
  let ds := Nat.toDigits 16 (rounded n d)
  let ds := List.replicate (count + 1 - ds.length) '0' ++ ds
  let (whole, fraction) := (ds.take (ds.length - count), ds.drop (ds.length - count))
  let fraction := if places.isSome then fraction
    else (fraction.reverse.dropWhile (· == '0')).reverse
  let point := if fraction.isEmpty && !keepPoint then [] else ['.']
  let text := whole ++ point ++ fraction ++ ['p', if e < 0 then '-' else '+']
    ++ Nat.toDigits 10 e.natAbs
  if upper then text.map Char.toUpper else text

/-- The text of a magnitude in the notation of the conversion letter. -/
def render (p : Precision) (conversion : Char) (places : Option Nat) (keepPoint : Bool)
    (m : Magnitude) : List Char :=
  let upper := conversion.isUpper
  match m with
  | .infinite => if upper then "INF".toList else "inf".toList
  | .notANumber => if upper then "NAN".toList else "nan".toList
  | .fraction n d =>
      match conversion.toLower with
      | 'a' => hexadecimal p keepPoint upper places n d
      | 'e' => scientific keepPoint upper (places.getD 6) n d
      | 'g' => general keepPoint upper (places.getD 6) n d
      | _ => fixed keepPoint (places.getD 6) n d

/-! ### Reading -/

/-- A number at the start of a text. -/
structure Reading where
  negative : Bool
  magnitude : Magnitude
  inRange : Bool
  /-- What follows it. -/
  rest : List Char

/-- The digits of a base at the start of a text, with a point before the last ones: the number that
they write without the point, how many there are, how many follow the point, and the rest of the
text. -/
def pointed (base : Nat) (s : List Char) : Nat × Nat × Nat × List Char :=
  let whole := s.takeWhile (isDigitIn base)
  let (fraction, rest) := match s.drop whole.length with
    | '.' :: after => (after.takeWhile (isDigitIn base), after.dropWhile (isDigitIn base))
    | rest => ([], rest)
  let rest := if whole.isEmpty && fraction.isEmpty then s else rest
  (numberIn base (whole ++ fraction), whole.length + fraction.length, fraction.length, rest)

/-- The exponent at the start of a text, after one of its letters, with what follows it. -/
def power (letter : Char) (s : List Char) : Int × List Char :=
  match s with
  | c :: after =>
      let (negative, ds) := Integer.sign after
      let digits := ds.takeWhile Char.isDigit
      if c.toLower = letter && !digits.isEmpty then
        let k : Int := numberIn 10 digits
        (if negative then -k else k, ds.drop digits.length)
      else (0, s)
  | [] => (0, [])

/-- A power that is not larger than one at which every number of so many digits is out of range. -/
def bounded (digits : Nat) (k : Int) : Int :=
  let limit : Int := 70000 + 4 * digits
  max (-limit) (min limit k)

/-- The real number at the start of a text. -/
def leading? (p : Precision) (s : List Char) : Option Reading :=
  let (negative, s) := Integer.sign (s.dropWhile isSpace)
  let lower := (s.take 8).map Char.toLower
  if "infinity".toList.isPrefixOf lower then some ⟨negative, .infinite, true, s.drop 8⟩
  else if "inf".toList.isPrefixOf lower then some ⟨negative, .infinite, true, s.drop 3⟩
  else if "nan".toList.isPrefixOf lower then
    let isPart (c : Char) : Bool := c.isAlphanum || c == '_'
    let rest := match s.drop 3 with
      | '(' :: after =>
          match after.dropWhile isPart with
          | ')' :: rest => rest
          | _ => s.drop 3
      | rest => rest
    some ⟨negative, .notANumber, true, rest⟩
  else
    let hexadecimal := match s with
      | '0' :: x :: after =>
          let read := pointed 16 after
          if x.toLower = 'x' && 0 < read.2.1 then some read else none
      | _ => none
    match hexadecimal with
    | some (m, digits, places, rest) =>
        let (k, rest) := power 'p' rest
        let (n, d) := shifted m 1 (bounded digits (k - 4 * places))
        let (magnitude, inRange) := p.nearest n d
        some ⟨negative, magnitude, inRange, rest⟩
    | none =>
        let (m, digits, places, rest) := pointed 10 s
        if digits = 0 then none
        else
          let (k, rest) := power 'e' rest
          let k := bounded digits (k - places)
          let (n, d) := if 0 ≤ k then (m * Nat.pow 10 k.toNat, 1) else (m, Nat.pow 10 (-k).toNat)
          let (magnitude, inRange) := p.nearest n d
          some ⟨negative, magnitude, inRange, rest⟩

end FieldPattern.Shell.Real
