import PayloadRules.Decimal.Binary64

/-!
# Shortest decimal text of a binary64 number

A number is written with the fewest decimal digits that still read back as that
number; of two candidates with equally many digits the nearer one is taken, and
of two equally near ones the even one.

The candidates with `n` digits are the two neighbours of the value on the grid
of `n`-digit decimals. A grid point reads back when it lies between the
midpoints to the neighbouring binary64 numbers, the midpoints included exactly
when the significand is even.

`Layout` holds what is left to the output: between which exponents the point
is written in place.
-/

namespace PayloadRules

namespace Decimal

/-- A positive value with the bounds between which decimals read back to it,
all three over one denominator. -/
structure Rounding where
  lower : Nat
  value : Nat
  upper : Nat
  denominator : Nat
  closed : Bool
deriving Repr

/-- The bounds of a magnitude. The gap below a power of two is half as wide. -/
def Rounding.ofMagnitude (magnitude : Nat) : Rounding :=
  let m := Binary64.significand magnitude
  let power := power 2 (Binary64.scale magnitude - 2)
  let narrow := magnitude % Binary64.leadingBit = 0 ∧ Binary64.leadingBit < magnitude
  { lower := (4 * m - if narrow then 1 else 2) * power.1
    value := 4 * m * power.1
    upper := (4 * m + 2) * power.1
    denominator := power.2
    closed := m % 2 = 0 }

/-- Number of decimal digits of a natural number. -/
def width (n : Nat) : Nat := (Nat.toDigits 10 n).length

/-- Exponent of the leading decimal digit. No binary64 number lies below
`10 ^ -400`, so shifting by four hundred places leaves a whole part. -/
def Rounding.exponent (r : Rounding) : Int :=
  (width (r.value * Nat.pow 10 400 / r.denominator) : Int) - 401

/-- Whether the decimal `k * 10 ^ e` reads back. -/
def Rounding.admits (r : Rounding) (k : Nat) (e : Int) : Bool :=
  let power := power 10 e
  let point := k * power.1 * r.denominator
  let lower := r.lower * power.2
  let upper := r.upper * power.2
  if r.closed then lower ≤ point && point ≤ upper else lower < point && point < upper

/-- Closest decimal with unit `10 ^ e` that reads back, as a multiple of the
unit. -/
def Rounding.onGrid (r : Rounding) (e : Int) : Option Nat :=
  let power := power 10 e
  let num := r.value * power.2
  let den := r.denominator * power.1
  let below := num / den
  let above := below + 1
  match r.admits below e, r.admits above e with
  | true, true => some (Binary64.divideToEven num den)
  | true, false => some below
  | false, true => some above
  | false, false => none

/-- First grid with a candidate, starting from `digits` digits. The multiple of
its unit is paired with the exponent of the unit. -/
def Rounding.search (r : Rounding) (leading : Int) : Nat → Nat → Nat × Int
  | _, 0 => (0, 0)
  | digits, steps + 1 =>
    let unit := leading - digits + 1
    match r.onGrid unit with
    | some k => (k, unit)
    | none => r.search leading (digits + 1) steps

/-- Digits of the shortest decimal without trailing zeros, and the exponent of
the first of them. Seventeen digits always suffice. -/
def shortest (magnitude : Nat) : List Char × Int :=
  let r := Rounding.ofMagnitude magnitude
  let found := r.search r.exponent 1 17
  let digits := Nat.toDigits 10 found.1
  let kept := (digits.reverse.dropWhile (· == '0')).reverse
  (kept, found.2 + digits.length - 1)

/-- Which exponents are written with the point in place. -/
structure Layout where
  least : Int
  greatest : Int
deriving Repr

/-- The point is written in place from five places to the right of it up to
sixteen digits to the left. -/
def positional : Layout := ⟨-5, 15⟩

/-- Digits with the point in place, a zero on either side of it at least. -/
def placePoint (digits : List Char) (e : Int) : List Char :=
  if 0 ≤ e then
    let whole := e.toNat + 1
    let padded := digits ++ List.replicate (whole - digits.length) '0'
    let fraction := padded.drop whole
    padded.take whole ++ '.' :: (if fraction.isEmpty then ['0'] else fraction)
  else
    '0' :: '.' :: (List.replicate ((-e).toNat - 1) '0' ++ digits)

/-- Digits with an exponent, a sign on it always, the point only before
further digits. -/
def withExponent (digits : List Char) (e : Int) : List Char :=
  let fraction := digits.drop 1
  let sign := if 0 ≤ e then '+' else '-'
  digits.take 1 ++ (if fraction.isEmpty then [] else '.' :: fraction)
    ++ 'e' :: sign :: Nat.toDigits 10 e.natAbs

/-- The text of a number. -/
def Layout.text (layout : Layout) (x : Binary64) : List Char :=
  let unsigned :=
    if x.magnitude = 0 then ['0', '.', '0']
    else
      let (digits, e) := shortest x.magnitude
      if layout.least ≤ e ∧ e ≤ layout.greatest then placePoint digits e
      else withExponent digits e
  if x.negative then '-' :: unsigned else unsigned

end Decimal

end PayloadRules
