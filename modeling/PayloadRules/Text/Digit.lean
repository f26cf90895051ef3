/-!
# Digits

The digits of a base up to sixteen. Those above nine are letters, read in either
case and written in lower case.
-/

namespace PayloadRules

namespace Text

/-- The digits of base sixteen by value. -/
def digitChars : List Char := "0123456789abcdef".toList

/-- Value of a digit; `none` for a character that is no digit of the base. -/
def digitValue? (base : Nat) (c : Char) : Option Nat := (digitChars.take base).idxOf? c.toLower

/-- The number that digits spell, the first one the most significant. -/
def ofDigits (base : Nat) (ds : List Nat) : Nat := ds.foldl (fun n d => n * base + d) 0

end Text

end PayloadRules
