/-!
# Powers

A power of a natural number with an integer exponent, kept as a numerator and a
denominator so that no digit is lost. One of the two is always 1.
-/

namespace PayloadRules

namespace Decimal

/-- The power `base ^ e` as a numerator and a denominator. -/
def power (base : Nat) (e : Int) : Nat × Nat :=
  if 0 ≤ e then (Nat.pow base e.toNat, 1) else (1, Nat.pow base (-e).toNat)

end Decimal

end PayloadRules
