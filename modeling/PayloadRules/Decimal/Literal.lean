import PayloadRules.Decimal.Binary64
import PayloadRules.Text.Digit

/-!
# Number literals

A literal is an optional minus sign, a whole part without superfluous leading
zeros, and optionally a fraction and an exponent. A literal with neither, whose
value fits sixty-four bits (unsigned without a sign, two's complement with
one), denotes that integer. Every other literal denotes a binary64 number, and
so does `-0`.

The binary64 value is reached in two roundings: digits are collected into a
sixty-four bit significand for as long as they fit, later whole digits count
into the exponent and later fraction digits are dropped; the significand is
rounded, then multiplied or divided by the rounded power of ten. A literal
beyond the largest number denotes nothing; below the smallest it denotes zero.
-/

namespace PayloadRules

/-- A number as a literal denotes it. -/
inductive Number where
  | int (value : Int)
  | float (value : Binary64)
deriving DecidableEq, Repr

namespace Number

/-- Numerical equality within each of the two kinds; an integer never equals a
binary64 number. -/
def same : Number → Number → Bool
  | .int a, .int b => a == b
  | .float a, .float b => a.same b
  | _, _ => false

end Number

namespace Decimal

/-- The parts of a literal, digits as numbers. -/
structure Literal where
  negative : Bool
  whole : List Nat
  fraction : Option (List Nat)
  exponent : Option (Bool × List Nat)
deriving Repr

/-- The leading digits of a text and what follows them. -/
def takeDigits (cs : List Char) : List Nat × List Char :=
  ((cs.takeWhile Char.isDigit).filterMap (Text.digitValue? 10), cs.dropWhile Char.isDigit)

/-- The exponent part, `none` when the text is something else. The flag tells a
negative exponent. -/
def exponentPart : List Char → Option (Option (Bool × List Nat))
  | [] => some none
  | c :: rest =>
    if c = 'e' ∨ c = 'E' then
      let (negative, digits) := match rest with
        | '-' :: more => (true, more)
        | '+' :: more => (false, more)
        | more => (false, more)
      match takeDigits digits with
      | ([], _) => none
      | (ds, []) => some (some (negative, ds))
      | (_, _ :: _) => none
    else none

/-- Splits a literal into its parts; `none` for any other text. -/
def Literal.ofChars? (cs : List Char) : Option Literal := do
  let (negative, unsigned) := match cs with
    | '-' :: rest => (true, rest)
    | rest => (false, rest)
  let (whole, rest) := takeDigits unsigned
  guard (whole ≠ [] ∧ (whole.length = 1 ∨ whole.head? ≠ some 0))
  match rest with
  | '.' :: more =>
    let (fraction, tail) := takeDigits more
    guard (fraction ≠ [])
    let exponent ← exponentPart tail
    return ⟨negative, whole, some fraction, exponent⟩
  | tail =>
    let exponent ← exponentPart tail
    return ⟨negative, whole, none, exponent⟩

/-- Digits collected so far: the significand, and how many places the point has
moved. -/
structure Collected where
  significand : Nat
  places : Int
  full : Bool
deriving Repr

/-- One more whole digit. Once a digit does not fit, that one and all later
ones only move the point. -/
def Collected.pushWhole (c : Collected) (d : Nat) : Collected :=
  if c.full ∨ UInt64.size ≤ c.significand * 10 + d then
    { c with places := c.places + 1, full := true }
  else { c with significand := c.significand * 10 + d }

/-- One more fraction digit. Once a digit does not fit, that one and all later
ones are dropped. -/
def Collected.pushFraction (c : Collected) (d : Nat) : Collected :=
  if c.full ∨ UInt64.size ≤ c.significand * 10 + d then { c with full := true }
  else { c with significand := c.significand * 10 + d, places := c.places - 1 }

/-- Largest exponent that is told from infinity. -/
def exponentLimit : Nat := 0x7FFFFFFF

/-- The magnitude nearest to `10 ^ e`. -/
def powerOfTen (e : Nat) : Option Nat := Binary64.nearest (Nat.pow 10 e) 1

/-- Division by `10 ^ e` in steps of at most `10 ^ 308`, each step rounded.
Zero stays zero, so `steps` is never used up. -/
def divideByPower : Nat → Nat → Nat → Option Nat
  | 0, _, _ => some 0
  | steps + 1, x, e =>
    if e ≤ 308 then do Binary64.div x (← powerOfTen e)
    else if x = 0 then some 0
    else do divideByPower steps (← Binary64.div x (← powerOfTen 308)) (e - 308)

/-- Magnitude of `significand * 10 ^ e`. -/
def scaled (significand : Nat) (e : Int) : Option Nat := do
  let x ← Binary64.nearest significand 1
  if 0 ≤ e then
    if e ≤ 308 then Binary64.mul x (← powerOfTen e.toNat)
    else if x = 0 then some 0
    else none
  else divideByPower 4 x (-e).toNat

/-- The number a literal denotes; `none` beyond the largest one. -/
def Literal.value? (l : Literal) : Option Number := do
  let whole := l.whole.foldl Collected.pushWhole ⟨0, 0, false⟩
  let collected := (l.fraction.getD []).foldl Collected.pushFraction { whole with full := false }
  let s := collected.significand
  match l.fraction, l.exponent with
  | none, none =>
    if whole.full then return .float ⟨l.negative, ← scaled s collected.places⟩
    else if ¬ l.negative then return .int s
    else if s = 0 ∨ UInt64.size / 2 < s then return .float ⟨true, ← scaled s 0⟩
    else return .int (-s)
  | _, none => return .float ⟨l.negative, ← scaled s collected.places⟩
  | _, some (negative, digits) =>
    let e := Text.ofDigits 10 digits
    if exponentLimit < e then
      if s ≠ 0 ∧ ¬ negative then none else return .float ⟨l.negative, 0⟩
    else
      return .float ⟨l.negative, ← scaled s (collected.places + if negative then -(e : Int) else e)⟩

end Decimal

end PayloadRules
