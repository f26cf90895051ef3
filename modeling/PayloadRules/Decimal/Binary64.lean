import PayloadRules.Decimal.Power

/-!
# Binary64 — finite numbers by their bits

A finite binary64 number is a sign and the other sixty-three bits read as one
natural number. Equal values other than the two zeros are equal pairs, so
equality is decidable without arithmetic.

`Binary64.nearest` is the one rounding of this library: the magnitude nearest
to a ratio of natural numbers, an exact half going to the even neighbour. A
product or a quotient of two numbers is a ratio of natural numbers too, so
`mul` and `div` round once, as the format asks.

Infinity and the undefined number are not represented. An operation whose
result leaves the range answers `none`.
-/

namespace PayloadRules

/-- A finite binary64 number: its sign and its remaining bits. -/
structure Binary64 where
  negative : Bool
  magnitude : Nat
deriving DecidableEq, Repr

namespace Binary64

/-- The weight of the leading bit of a significand, which is not stored: a one
with fifty-two zeros behind it. -/
def leadingBit : Nat := 0x10000000000000

/-- The first magnitude that no finite number has. -/
def limit : Nat := 2047 * leadingBit

/-- Whole significand of a magnitude, the leading bit included. -/
def significand (magnitude : Nat) : Nat :=
  if magnitude < leadingBit then magnitude else leadingBit + magnitude % leadingBit

/-- Power of two that the significand of a magnitude is multiplied by. -/
def scale (magnitude : Nat) : Int :=
  if magnitude < leadingBit then -1074 else (magnitude / leadingBit : Nat) - 1075

/-- The value of a magnitude as a numerator and a denominator. -/
def ratio (magnitude : Nat) : Nat × Nat :=
  let power := Decimal.power 2 (scale magnitude)
  (significand magnitude * power.1, power.2)

/-- Quotient rounded to the nearest natural number, a half to the even one. -/
def divideToEven (num den : Nat) : Nat :=
  let whole := num / den
  let twice := 2 * (num % den)
  if den < twice ∨ (twice = den ∧ whole % 2 = 1) then whole + 1 else whole

/-- Power of two that leaves a ratio with fifty-three significant bits, or the
smallest power of the format. -/
def scaleFor (num den : Nat) : Int :=
  let guess : Int := (Nat.log2 num : Int) - (Nat.log2 den : Int) - 52
  let power := Decimal.power 2 guess
  let short := num * power.2 < leadingBit * (den * power.1)
  max (if short then guess - 1 else guess) (-1074)

/-- The magnitude nearest to `num / den`, `none` beyond the largest number. -/
def nearest (num den : Nat) : Option Nat :=
  if num = 0 then some 0
  else
    let q := scaleFor num den
    let power := Decimal.power 2 q
    let rounded := divideToEven (num * power.2) (den * power.1)
    let magnitude := (q + 1074).toNat * leadingBit + rounded
    if magnitude < limit then some magnitude else none

/-- Product of two magnitudes. -/
def mul (a b : Nat) : Option Nat :=
  nearest ((ratio a).1 * (ratio b).1) ((ratio a).2 * (ratio b).2)

/-- Quotient of two magnitudes, the divisor not zero. -/
def div (a b : Nat) : Option Nat :=
  nearest ((ratio a).1 * (ratio b).2) ((ratio a).2 * (ratio b).1)

/-- Numerical equality: the two zeros are one number. -/
def same (a b : Binary64) : Bool :=
  a.magnitude == b.magnitude && (a.negative == b.negative || a.magnitude == 0)

end Binary64

end PayloadRules
