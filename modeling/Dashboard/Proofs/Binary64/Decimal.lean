import Dashboard.Proofs.Binary64.Nearest
import Mathlib.Algebra.Order.Field.Basic

/-!
# Rounding decimals

A decimal literal is rounded to the number that is nearest to its exact value, whatever
its digits and its exponent are.

## The fact the module rests on

The count of the digits of a number tells between which powers of ten it is.  So a
decimal that is decided by the count of its digits and its exponent alone is on the same
side of the midpoints at the ends of the range as the power of ten it is compared with.
For all other decimals the value is written out as a quotient, and that is rounded.

## Main results

* `Digits.value_append` — the number that is written by digits behind others.
* `Literal.digits_bounds` — the powers of ten around a decimal.
* `Literal.roundsTo_ofDecimal` — a decimal is rounded to the nearest number.
-/

namespace Dashboard

namespace Digits

/-! ## The number that digits write -/

/-- Digits behind others. -/
theorem valueFrom_eq (start : Nat) (digits : List Char) :
    valueFrom start digits = start * 10 ^ digits.length + value digits := by
  induction digits generalizing start with
  | nil => simp [value, valueFrom]
  | cons c digits ih =>
      have first : valueFrom start (c :: digits) =
          valueFrom (10 * start + (c.toNat - '0'.toNat)) digits := rfl
      have alone : value (c :: digits) = valueFrom (10 * 0 + (c.toNat - '0'.toNat)) digits := rfl
      rw [first, alone, ih, ih (10 * 0 + _), List.length_cons, Nat.pow_succ]
      ring

theorem value_append (front back : List Char) :
    value (front ++ back) = value front * 10 ^ back.length + value back := by
  rw [← valueFrom_eq]
  exact List.foldl_append

end Digits

namespace Literal

open Binary64

/-- The count of the digits of a number tells between which powers of ten it is. -/
theorem digits_bounds {n : Nat} (nonzero : n ≠ 0) (exponent : Int) :
    (10 : ℚ) ^ ((Digits.ofNat n).length + exponent - 1) ≤ n * 10 ^ exponent ∧
      n * 10 ^ exponent < (10 : ℚ) ^ ((Digits.ofNat n).length + exponent) := by
  obtain ⟨places, length⟩ : ∃ places, (Digits.ofNat n).length = places + 1 :=
    Nat.exists_eq_add_one.2 Nat.length_toDigits_pos
  have scale : (0 : ℚ) < 10 ^ exponent := zpow_pos (by norm_num) exponent
  have high : n < 10 ^ (places + 1) := by
    rw [← Nat.length_toDigits_le_iff (by decide) (Nat.succ_pos places)]
    exact length.le
  have low : 10 ^ places ≤ n := by
    by_contra fewer
    rcases Nat.eq_zero_or_pos places with rfl | positive
    · omega
    · have short := (Nat.length_toDigits_le_iff (by decide) positive).2 (Nat.lt_of_not_le fewer)
      have same : (Nat.toDigits 10 n).length = places + 1 := length
      omega
  have split (k : Nat) : (10 : ℚ) ^ ((k : Int) + exponent) = (10 ^ k : Nat) * 10 ^ exponent := by
    rw [zpow_add₀ (by norm_num), zpow_natCast]
    push_cast
    rfl
  have first : (((places + 1 : Nat) : Int) + exponent - 1) = (places : Int) + exponent := by
    push_cast
    ring
  rw [length, first, split, split]
  exact ⟨mul_le_mul_of_nonneg_right (Nat.cast_le.2 low) scale.le,
    mul_lt_mul_of_pos_right (Nat.cast_lt.2 high) scale⟩

/-- Below this power of ten everything is rounded to zero. -/
theorem tenth_powers_vanish : (10 : ℚ) ^ (-330 : Int) ≤ 1 / 2 ^ 1075 := by
  have powers : 2 ^ 1075 ≤ 10 ^ 330 := by decide +kernel
  have values : ((2 ^ 1075 : Nat) : ℚ) ≤ (10 ^ 330 : Nat) := Nat.cast_le.2 powers
  have negative : (-330 : Int) = -((330 : Nat) : Int) := rfl
  rw [negative, zpow_neg, zpow_natCast, ← one_div]
  generalize 1075 = low, 330 = high at values ⊢
  push_cast at values
  exact one_div_le_one_div_of_le (pow_pos two_pos low) values

/-- From this power of ten on everything overflows. -/
theorem powers_overflow : 2 ^ 1024 - 2 ^ 970 ≤ (10 : ℚ) ^ (309 : Int) := by
  have powers : 2 ^ 1024 ≤ 10 ^ 309 := by decide +kernel
  have values : ((2 ^ 1024 : Nat) : ℚ) ≤ (10 ^ 309 : Nat) := Nat.cast_le.2 powers
  have positive : (309 : Int) = ((309 : Nat) : Int) := rfl
  rw [positive, zpow_natCast]
  generalize 1024 = low, 309 = high, 970 = rest at values ⊢
  push_cast at values
  exact (sub_le_self _ (pow_pos two_pos rest).le).trans values

/-- **A decimal is rounded to the nearest number**, whatever its digits and its exponent. -/
theorem roundsTo_ofDecimal (negative : Bool) (digits : Nat) (exponent : Int) :
    RoundsTo negative (digits * 10 ^ exponent) (ofDecimal negative digits exponent) := by
  have scale : (0 : ℚ) < 10 ^ exponent := zpow_pos (by norm_num) exponent
  have nonneg : (0 : ℚ) ≤ digits * 10 ^ exponent := mul_nonneg (Nat.cast_nonneg digits) scale.le
  have monotone {m n : Int} (order : m ≤ n) : (10 : ℚ) ^ m ≤ 10 ^ n :=
    zpow_le_zpow_right₀ (by norm_num) order
  unfold ofDecimal
  dsimp only
  split_ifs with small large
  · -- Nothing is written, or it is below the midpoint to the least positive number.
    refine roundsTo_zero negative nonneg ?_
    by_cases zero : digits = 0
    · rw [zero, Nat.cast_zero, zero_mul]
      exact one_div_nonneg.2 (pow_pos two_pos 1075).le
    · have bound := (digits_bounds zero exponent).2
      exact (bound.le.trans (monotone (small.resolve_left zero))).trans tenth_powers_vanish
  · -- The first digit alone is past the midpoint behind the largest number.
    refine roundsTo_infinite negative ?_
    have nonzero : digits ≠ 0 := fun zero => small (.inl zero)
    have bound := (digits_bounds nonzero exponent).1
    exact (powers_overflow.trans (monotone (by omega))).trans bound
  · have unit : (unitsPerOne : ℚ) ≠ 0 := (Nat.cast_pos.2 unitsPerOne_pos).ne'
    cases exponent with
    | ofNat e =>
        have rounds := roundsTo_ofMagnitude negative (digits * Nat.pow 10 e * unitsPerOne)
          Nat.one_pos
        rw [Nat.pow_eq, Nat.cast_mul, Nat.cast_one, one_mul, mul_div_cancel_right₀ _ unit] at rounds
        push_cast at rounds
        exact rounds
    | negSucc e =>
        have rounds := roundsTo_ofMagnitude negative (digits * unitsPerOne)
          (Nat.pow_pos (n := e + 1) (show 0 < 10 by decide))
        rw [Nat.cast_mul, mul_div_mul_right _ _ unit] at rounds
        push_cast at rounds
        rw [zpow_negSucc, ← div_eq_mul_inv]
        exact rounds

end Literal

end Dashboard
