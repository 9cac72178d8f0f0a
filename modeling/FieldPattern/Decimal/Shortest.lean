import FieldPattern.Text.Numeral

/-! # The shortest decimal of a double

A finite double is an exact number `m * 2 ^ q`.  All reals closer to it than to any other
double round to it; they form an interval, whose ends belong to it exactly when `m` is even.

Among the decimals in the interval, `shortest` takes one with the fewest digits, and of those
the nearest to the double (of two equally near ones the one with the even last digit).  It
tries one digit, two digits and so on: on the grid of decimals with `n` digits it looks at the
two neighbours of the double.  Seventeen digits are always enough.

`render` writes the decimal with a point and at least one digit on each side of it as long as
the leading digit stands for a power of ten from `-5` to `15`.  Beyond that it writes one digit
before the point, the others after it, and then `e`, a sign and the exponent, as in `1e+23`
and `1.5e-7`. -/

namespace FieldPattern

/-- The number `coefficient * 10 ^ exponent`. -/
structure Decimal where
  coefficient : Nat
  exponent : Int
deriving DecidableEq, Repr

namespace Decimal

/-- A non-negative fraction and the interval around it, over one denominator: the number, its
lower end and its upper end, and whether the ends belong to the interval. -/
structure Target where
  number : Nat
  lower : Nat
  upper : Nat
  denominator : Nat
  closed : Bool
deriving Repr

/-- The interval of reals that round to the double with exponent field `e` and fraction field
`f`, in quarters of its last binary place. -/
def Target.ofFields (e f : Nat) : Target :=
  let m := if e = 0 then f else f + Nat.pow 2 52
  let q : Int := (if e = 0 then 1 else (e : Int)) - 1077
  let step := if f = 0 ∧ 1 < e then 1 else 2
  let scale := if 0 ≤ q then Nat.pow 2 q.toNat else 1
  ⟨4 * m * scale, (4 * m - step) * scale, (4 * m + 2) * scale,
    if 0 ≤ q then 1 else Nat.pow 2 (-q).toNat, m % 2 = 0⟩

/-- The power of ten of the leading digit of a positive fraction. -/
def Target.lead (t : Target) : Int :=
  if t.denominator ≤ t.number then (Text.Numeral.digits (t.number / t.denominator)).length - 1
  else
    match (List.range 400).find? fun j => t.denominator ≤ t.number * Nat.pow 10 j with
    | some j => -(j : Int)
    | none => 0

/-- Whether `coefficient * up / down`, up to the denominator, lies in the interval. -/
def Target.holds (t : Target) (coefficient up down : Nat) : Bool :=
  let x := coefficient * up * t.denominator
  if t.closed then t.lower * down ≤ x && x ≤ t.upper * down
  else t.lower * down < x && x < t.upper * down

/-- The decimal with at most `n` digits that lies in the interval and is nearest. -/
def Target.nearest? (t : Target) (n : Nat) : Option Decimal :=
  let exponent := t.lead - (n - 1)
  let up := if 0 ≤ exponent then Nat.pow 10 exponent.toNat else 1
  let down := if 0 ≤ exponent then 1 else Nat.pow 10 (-exponent).toNat
  let below := t.number * down / (t.denominator * up)
  let twice := 2 * t.number * down
  let middle := (2 * below + 1) * t.denominator * up
  match t.holds below up down, t.holds (below + 1) up down with
  | true, false => some ⟨below, exponent⟩
  | false, true => some ⟨below + 1, exponent⟩
  | true, true =>
      if twice < middle ∨ (twice = middle ∧ below % 2 = 0) then some ⟨below, exponent⟩
      else some ⟨below + 1, exponent⟩
  | false, false => none

/-- The number without zeros at the end of its coefficient, as digits and an exponent. -/
def reduced (d : Decimal) : List Char × Int :=
  let digits := Text.Numeral.digits d.coefficient
  let kept := (digits.reverse.dropWhile (· == '0')).reverse
  (kept, d.exponent + (digits.length - kept.length : Nat))

/-- The shortest decimal of the magnitude of a finite double. -/
def shortest (x : Float) : Decimal :=
  let bits := x.toBits.toNat
  let e := bits / Nat.pow 2 52 % Nat.pow 2 11
  let f := bits % Nat.pow 2 52
  if e = 0 ∧ f = 0 then ⟨0, 0⟩
  else
    let t := Target.ofFields e f
    ((List.range 17).findSome? fun n => t.nearest? (n + 1)).getD ⟨0, 0⟩

/-- The text of a number that is not negative. -/
def render (d : Decimal) : String :=
  if d.coefficient = 0 then "0.0"
  else
    let (digits, exponent) := d.reduced
    let lead : Int := exponent + digits.length - 1
    if 0 ≤ lead ∧ lead ≤ 15 then
      let whole := lead.toNat + 1
      let fraction := digits.drop whole
      String.ofList (digits.take whole ++ List.replicate (whole - digits.length) '0' ++ ['.']
        ++ if fraction.isEmpty then ['0'] else fraction)
    else if -5 ≤ lead ∧ lead < 0 then
      String.ofList (['0', '.'] ++ List.replicate ((-lead).toNat - 1) '0' ++ digits)
    else
      String.ofList (digits.take 1 ++ (if digits.length ≤ 1 then [] else '.' :: digits.drop 1)
        ++ ['e', if 0 ≤ lead then '+' else '-'] ++ Text.Numeral.digits lead.natAbs)

end Decimal

/-- The shortest text of a finite double that reads back as the same double. -/
def Decimal.ofFloat (x : Float) : String :=
  let text := (Decimal.shortest x).render
  if x.toBits.toNat < Nat.pow 2 63 then text else "-" ++ text

end FieldPattern
