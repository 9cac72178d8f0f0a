import FieldPattern.Decimal.Shortest
import FieldPattern.Json.Fault

/-! # JSON numbers

A configuration holds no numbers.  They are read all the same, for a report that names the
number that stands where something else is wanted, and to skip the values of unknown members.

`read` reads a number for a report.  Digits are gathered into a whole number as long as it
stays below `2 ^ 64`; later digits only raise the power of ten.  A number without a fraction
and an exponent is an integer if 64 bits hold it.  Any other is a double: the digits gathered,
multiplied or divided once by a power of ten up to `10 ^ 308`, in steps where more is wanted.
A number too large for a double is refused.

`skip` only checks the form. -/

namespace FieldPattern.Json.Number

/-- A number that was read. -/
inductive Value where
  | integer (n : Int)
  | double (x : Float)

namespace Value

/-- The number as it appears in a report. -/
def found : Value → Found
  | integer n => .integer n
  | double x => .fraction (Decimal.ofFloat x)

end Value

/-- The largest whole number that 64 bits hold. -/
def largest : Nat := Nat.pow 2 64 - 1

/-- The largest exponent that is read out. -/
def largestExponent : Nat := Nat.pow 2 31 - 1

/-- Whether the next character is a digit. -/
def startsWithDigit (s : List Char) : Bool := s.head?.any Char.isDigit

/-- The characters after the next digits. -/
def skipDigits (s : List Char) : List Char := s.dropWhile Char.isDigit

/-- Append digits to `n` while it stays within `limit`. -/
def gather (limit n : Nat) : List Char → Nat × List Char
  | [] => (n, [])
  | c :: rest =>
      let n' := 10 * n + (c.toNat - '0'.toNat)
      if c.isDigit && n' ≤ limit then gather limit n' rest else (n, c :: rest)

/-- `x` divided by ten to the power `p`, in steps of at most `10 ^ 308`. -/
def divideByPower (x : Float) (p : Nat) : Float :=
  if x == 0 then x
  else if p ≤ 308 then x / Float.ofScientific 1 false p
  else divideByPower (x / Float.ofScientific 1 false 308) (p - 308)
termination_by p
decreasing_by omega

/-- The double `digits * 10 ^ exponent`; `s` is what follows the number. -/
def scale (negative : Bool) (digits : Nat) (exponent : Int) (s : List Char) :
    Except Fault (Value × List Char) :=
  let x := (UInt64.ofNat digits).toFloat
  let signed (y : Float) := Value.double (if negative then -y else y)
  if exponent < 0 then .ok (signed (divideByPower x (-exponent).toNat), s)
  else if x == 0 then .ok (signed x, s)
  else
    let y := if exponent ≤ 308 then x * Float.ofScientific 1 false exponent.toNat else x / 0
    if y.isInf then .error (.before .numberOutOfRange s) else .ok (signed y, s)

/-- Read what follows the `e` of a number. -/
def readExponent (negative : Bool) (digits : Nat) (exponent : Int) (s : List Char) :
    Except Fault (Value × List Char) :=
  let (lower, s) := match s with
    | '+' :: rest => (false, rest)
    | '-' :: rest => (true, rest)
    | s => (false, s)
  if s.isEmpty then .error (.before .endInValue s)
  else if !startsWithDigit s then .error (.after .invalidNumber s)
  else
    let (power, rest) := gather largestExponent 0 s
    if startsWithDigit rest then
      if digits ≠ 0 ∧ !lower then .error (.after .numberOutOfRange rest)
      else .ok (.double (if negative then -0.0 else 0.0), skipDigits rest)
    else scale negative digits (if lower then exponent - power else exponent + power) rest

/-- Read an exponent if there is one. -/
def readTail (negative : Bool) (digits : Nat) (exponent : Int) (s : List Char) :
    Except Fault (Value × List Char) :=
  match s with
  | 'e' :: rest => readExponent negative digits exponent rest
  | 'E' :: rest => readExponent negative digits exponent rest
  | s => scale negative digits exponent s

/-- Read what follows the point of a number. -/
def readFraction (negative : Bool) (digits : Nat) (exponent : Int) (s : List Char) :
    Except Fault (Value × List Char) :=
  let (digits, rest) := gather largest digits s
  let places := s.length - rest.length
  if startsWithDigit rest then readTail negative digits (exponent - places) (skipDigits rest)
  else if places = 0 then
    .error (.after (if rest.isEmpty then .endInValue else .invalidNumber) rest)
  else readTail negative digits (exponent - places) rest

/-- Read what follows the whole part of a number whose digits fit 64 bits. -/
def readRest (negative : Bool) (digits : Nat) (s : List Char) :
    Except Fault (Value × List Char) :=
  match s with
  | '.' :: rest => readFraction negative digits 0 rest
  | 'e' :: rest => readExponent negative digits 0 rest
  | 'E' :: rest => readExponent negative digits 0 rest
  | s =>
      if !negative then .ok (.integer digits, s)
      else if digits = 0 ∨ Nat.pow 2 63 < digits then
        .ok (.double (-(UInt64.ofNat digits).toFloat), s)
      else .ok (.integer (-(digits : Int)), s)

/-- Read a number from after its sign. -/
def read (negative : Bool) (s : List Char) : Except Fault (Value × List Char) :=
  match s with
  | [] => .error (.before .endInValue [])
  | '0' :: rest =>
      if startsWithDigit rest then .error (.after .invalidNumber rest)
      else readRest negative 0 rest
  | c :: rest =>
      if !c.isDigit then .error (.after .invalidNumber (c :: rest))
      else
        let (digits, rest) := gather largest 0 (c :: rest)
        if startsWithDigit rest then
          let rest' := skipDigits rest
          let exponent : Int := (rest.length - rest'.length : Nat)
          match rest' with
          | '.' :: tail => readFraction negative digits exponent tail
          | tail => readTail negative digits exponent tail
        else readRest negative digits rest

/-! ### Skipping numbers -/

/-- Skip the sign of an exponent. -/
def skipSign : List Char → List Char
  | '+' :: rest => rest
  | '-' :: rest => rest
  | s => s

/-- Skip what follows the `e` of a number. -/
def skipExponent (s : List Char) : Except Fault (List Char) :=
  if startsWithDigit (skipSign s) then .ok (skipDigits (skipSign s))
  else .error (.after .invalidNumber (skipSign s))

/-- Skip an exponent if there is one. -/
def skipTail (s : List Char) : Except Fault (List Char) :=
  match s with
  | 'e' :: rest => skipExponent rest
  | 'E' :: rest => skipExponent rest
  | s => .ok s

/-- Skip a number from after its sign. -/
def skip (s : List Char) : Except Fault (List Char) :=
  match s with
  | '0' :: rest =>
      if startsWithDigit rest then .error (.after .invalidNumber rest) else skipFraction rest
  | s =>
      if startsWithDigit s then skipFraction (skipDigits s)
      else .error (.after .invalidNumber s)
where
  /-- Skip a fraction and an exponent, if there are any. -/
  skipFraction (s : List Char) : Except Fault (List Char) :=
    match s with
    | '.' :: rest =>
        if startsWithDigit rest then skipTail (skipDigits rest)
        else .error (.after .invalidNumber rest)
    | s => skipTail s

/-! ### Skipping never lengthens the text -/

theorem skipDigits_length (s : List Char) : (skipDigits s).length ≤ s.length :=
  length_dropWhile_le _ s

theorem skipSign_length (s : List Char) : (skipSign s).length ≤ s.length := by
  unfold skipSign
  split <;> simp

theorem skipExponent_length {s r : List Char} (h : skipExponent s = .ok r) :
    r.length ≤ s.length := by
  unfold skipExponent at h
  split at h
  · cases h
    exact Nat.le_trans (skipDigits_length _) (skipSign_length s)
  · cases h

theorem skipTail_length {s r : List Char} (h : skipTail s = .ok r) : r.length ≤ s.length := by
  unfold skipTail at h
  split at h
  · exact Nat.le_trans (skipExponent_length h) (by simp)
  · exact Nat.le_trans (skipExponent_length h) (by simp)
  · cases h
    exact Nat.le_refl _

theorem skipFraction_length {s r : List Char} (h : skip.skipFraction s = .ok r) :
    r.length ≤ s.length := by
  unfold skip.skipFraction at h
  split at h
  · split at h
    · refine Nat.le_trans (skipTail_length h) (Nat.le_trans (skipDigits_length _) ?_)
      simp
    · cases h
  · exact skipTail_length h

theorem skipDigits_length_lt {s : List Char} (h : startsWithDigit s = true) :
    (skipDigits s).length < s.length := by
  cases s with
  | nil => simp [startsWithDigit] at h
  | cons c rest =>
      have hc : c.isDigit = true := by simpa [startsWithDigit] using h
      rw [skipDigits, List.dropWhile_cons, if_pos hc]
      exact Nat.lt_succ_of_le (length_dropWhile_le _ rest)

/-- A number has at least one digit. -/
theorem skip_length_lt {s r : List Char} (h : skip s = .ok r) : r.length < s.length := by
  unfold skip at h
  split at h
  · split at h
    · cases h
    · exact Nat.lt_succ_of_le (skipFraction_length h)
  · split at h
    · exact Nat.lt_of_le_of_lt (skipFraction_length h) (skipDigits_length_lt ‹_›)
    · cases h

end FieldPattern.Json.Number
