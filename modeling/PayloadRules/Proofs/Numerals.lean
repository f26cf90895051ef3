import Mathlib.Data.List.Basic
import Mathlib.Data.List.TakeWhile
import Mathlib.Data.Option.Basic
import PayloadRules.Decimal.Literal

/-!
# Numerals

The decimal digits of a number of sixty-four bits are a literal of that number: there is a
first digit, it is not zero unless it is the only one, and the digits add up to the number.
-/

namespace PayloadRules

namespace Decimal

open Text

/-- A digit has its value in every base that knows it. -/
theorem digitValue?_digitChar : ∀ base ≤ 16, ∀ d < base,
    digitValue? base (Nat.digitChar d) = some d := by decide

theorem isDigit_of_mem_toDigits {n : Nat} {c : Char} (hc : c ∈ Nat.toDigits 10 n) : c.isDigit :=
  Nat.isDigit_of_mem_toDigits (by decide) (by decide) hc

/-- The digits of a number, the first one the most significant. -/
def digits (n : Nat) : List Nat := (Nat.toDigits 10 n).filterMap (digitValue? 10)

theorem digits_of_lt {n : Nat} (small : n < 10) : digits n = [n] := by
  rw [digits, Nat.toDigits_of_lt_base small,
    List.filterMap_cons_some (digitValue?_digitChar 10 (by decide) n small), List.filterMap_nil]

theorem digits_of_le {n : Nat} (large : 10 ≤ n) : digits n = digits (n / 10) ++ [n % 10] := by
  have last : n % 10 < 10 := Nat.mod_lt n (by decide)
  rw [digits, Nat.toDigits_of_base_le (by decide) large, List.filterMap_append,
    List.filterMap_cons_some (digitValue?_digitChar 10 (by decide) _ last), List.filterMap_nil,
    digits]

/-- Digits are read off a number from the right. -/
theorem digits_induction {P : Nat → Prop} (small : ∀ n < 10, P n)
    (large : ∀ n, 10 ≤ n → P (n / 10) → P n) (n : Nat) : P n := by
  induction n using Nat.strongRecOn with
  | _ n ih =>
    by_cases h : n < 10
    · exact small n h
    · exact large n (by omega) (ih (n / 10) (by omega))

theorem digits_ne_nil (n : Nat) : digits n ≠ [] := by
  by_cases small : n < 10
  · rw [digits_of_lt small]
    exact List.cons_ne_nil n []
  · rw [digits_of_le (by omega)]
    exact List.append_ne_nil_of_right_ne_nil _ (List.cons_ne_nil _ _)

theorem head?_digits (n : Nat) (positive : 0 < n) : (digits n).head? ≠ some 0 := by
  induction n using digits_induction with
  | small n h =>
    rw [digits_of_lt h, List.head?_cons]
    exact fun same => Nat.ne_of_gt positive (Option.some.inj same)
  | large n h ih =>
    rw [digits_of_le h, List.head?_append_of_ne_nil _ (digits_ne_nil _)]
    exact ih (by omega)

/-- Nothing is added in front of the digits of a number. -/
theorem length_digits_or (n : Nat) : (digits n).length = 1 ∨ (digits n).head? ≠ some 0 := by
  by_cases small : n < 10
  · left
    rw [digits_of_lt small]
    rfl
  · exact Or.inr (head?_digits n (by omega))

/-- The digits of a number of sixty-four bits add up to the number. -/
theorem foldl_pushWhole_digits (n : Nat) (fits : n < UInt64.size) :
    (digits n).foldl Collected.pushWhole ⟨0, 0, false⟩ = ⟨n, 0, false⟩ := by
  -- The front of the number fits as well, so no digit on the way is one too many.
  induction n using digits_induction with
  | small n h =>
    have room : ¬ UInt64.size ≤ n := Nat.not_le.mpr fits
    simp only [digits_of_lt h, List.foldl_cons, List.foldl_nil, Collected.pushWhole, Nat.zero_mul,
      Nat.zero_add, room, Bool.false_eq_true, or_self, if_false]
  | large n h ih =>
    have whole : n / 10 * 10 + n % 10 = n := by omega
    have room : ¬ UInt64.size ≤ n := Nat.not_le.mpr fits
    rw [digits_of_le h, List.foldl_append, ih (by omega), List.foldl_cons, List.foldl_nil,
      Collected.pushWhole]
    simp only [whole, room, Bool.false_eq_true, or_self, if_false]

theorem takeDigits_toDigits (n : Nat) : takeDigits (Nat.toDigits 10 n) = (digits n, []) := by
  have all : ∀ c ∈ Nat.toDigits 10 n, c.isDigit := fun _ hc => isDigit_of_mem_toDigits hc
  rw [takeDigits, List.takeWhile_eq_self_iff.mpr all, List.dropWhile_eq_nil_iff.mpr all, digits]

theorem ofChars?_toDigits (n : Nat) :
    Literal.ofChars? (Nat.toDigits 10 n) = some ⟨false, digits n, none, none⟩ := by
  have unsigned : ∀ rest, Nat.toDigits 10 n ≠ '-' :: rest := by
    intro rest same
    have there : '-' ∈ Nat.toDigits 10 n := same ▸ List.mem_cons_self
    exact absurd (isDigit_of_mem_toDigits there) (by decide)
  unfold Literal.ofChars?
  split
  next sign whole parts =>
    split at parts
    · next rest shape => exact absurd shape (unsigned rest)
    · cases parts
      have well : digits n ≠ [] ∧ ((digits n).length = 1 ∨ (digits n).head? ≠ some 0) :=
        ⟨digits_ne_nil n, length_digits_or n⟩
      simp only [takeDigits_toDigits, (Option.guard_eq_some' ()).mpr well]
      rfl

theorem value?_digits {n : Nat} (fits : n < UInt64.size) :
    Literal.value? ⟨false, digits n, none, none⟩ = some (.int n) := by
  simp only [Literal.value?, foldl_pushWhole_digits n fits]
  rfl

end Decimal

end PayloadRules
