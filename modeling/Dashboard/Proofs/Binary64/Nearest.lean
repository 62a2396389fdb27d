import Dashboard.Proofs.Binary64.Operations
import Mathlib.Algebra.Order.Field.Rat
import Mathlib.Algebra.Order.Ring.Abs
import Mathlib.Tactic.FieldSimp
import Mathlib.Tactic.Linarith

/-!
# The nearest number

Rounding to nearest, said of rational values: of all numbers none is nearer, and if
another one is as near, the number that is taken is the one with an even last bit.

## The fact the module rests on

A number is nearer than another one just if the value is on its side of the midpoint
between the two.  So of all other numbers only the two neighbours matter, and for them
`Shortest.roundsTo` compares the value with the midpoints.

The ranks go on past the last finite number, as if there were no largest one.  A value
whose nearest rank is no longer finite is an overflow.

## Main definitions

* `rankValue` — the value of a rank.
* `IsNearest` — nearest to a value, with ties to even.
* `Between` — between the midpoints to the neighbours.
* `RoundsTo` — the number that a magnitude with a sign is rounded to.

## Main results

* `isNearest_iff` — `nearestRank` finds the nearest rank.
* `IsNearest.lt_rankLimit_iff`, `IsNearest.eq_zero_iff` — which values overflow, and which
  are rounded to zero.
* `RoundsTo.isAmount_iff_bounds` — which values are rounded to an amount.
-/

namespace Dashboard.Binary64

open Shortest (roundsTo)

/-- The value of a rank. -/
def rankValue (rank : Nat) : ℚ := units rank / unitsPerOne

/-- Whether a rank is the nearest one to a value: none is nearer, and if another one is as
near, the rank is even. -/
structure IsNearest (v : ℚ) (rank : Nat) : Prop where
  closest : ∀ other, |v - rankValue rank| ≤ |v - rankValue other|
  even_of_tie : ∀ other ≠ rank, |v - rankValue rank| = |v - rankValue other| → rank % 2 = 0

/-! ## Midpoints -/

theorem closer_iff {a b v : ℚ} : |v - a| ≤ |v - b| ↔ 0 ≤ (b - a) * (a + b - 2 * v) := by
  have difference : (v - b) ^ 2 - (v - a) ^ 2 = (b - a) * (a + b - 2 * v) := by ring
  rw [← sq_le_sq, ← sub_nonneg, difference]

section Order

variable {a b v : ℚ}

/-- The smaller of two numbers is the nearer one below their midpoint. -/
theorem lower_closer_iff (order : a < b) : |v - a| ≤ |v - b| ↔ 2 * v ≤ a + b := by
  rw [closer_iff, mul_nonneg_iff_of_pos_left (sub_pos.2 order), sub_nonneg]

/-- The larger of two numbers is the nearer one above their midpoint. -/
theorem upper_closer_iff (order : a < b) : |v - b| ≤ |v - a| ↔ a + b ≤ 2 * v := by
  have sides : (a - b) * (b + a - 2 * v) = (b - a) * (2 * v - (a + b)) := by ring
  rw [closer_iff, sides, mul_nonneg_iff_of_pos_left (sub_pos.2 order), sub_nonneg]

/-- Two numbers are equally near to their midpoint. -/
theorem tie_iff (order : a < b) : |v - a| = |v - b| ↔ 2 * v = a + b := by
  rw [le_antisymm_iff, lower_closer_iff order, upper_closer_iff order, ← le_antisymm_iff]

end Order

theorem rankValue_strictMono : StrictMono rankValue := by
  intro rank other order
  have unit : (0 : ℚ) < unitsPerOne := Nat.cast_pos.2 unitsPerOne_pos
  have values : (units rank : ℚ) < units other := Nat.cast_lt.2 (units_strictMono order)
  exact div_lt_div_of_pos_right values unit

theorem rankValue_zero : rankValue 0 = 0 := by
  unfold rankValue
  rw [units_zero, Nat.cast_zero, zero_div]

/-- Whether a value lies between the midpoints from a rank to its two neighbours, and on
neither of them if the rank is odd. -/
def Between (v : ℚ) (rank : Nat) : Prop :=
  rankValue (rank - 1) + rankValue rank ≤ 2 * v ∧
    2 * v ≤ rankValue rank + rankValue (rank + 1) ∧
      (rank % 2 = 1 → rankValue (rank - 1) + rankValue rank < 2 * v ∧
        2 * v < rankValue rank + rankValue (rank + 1))

section Between

variable {v : ℚ} {rank : Nat}

theorem IsNearest.between (nonneg : 0 ≤ v) (nearest : IsNearest v rank) : Between v rank := by
  have next : rankValue rank < rankValue (rank + 1) := rankValue_strictMono (Nat.lt_succ_self rank)
  have above := (lower_closer_iff next).1 (nearest.closest (rank + 1))
  rcases Nat.eq_zero_or_pos rank with rfl | positive
  · refine ⟨?_, above, nofun⟩
    rw [Nat.zero_sub, rankValue_zero]
    linarith
  · have previous : rankValue (rank - 1) < rankValue rank := rankValue_strictMono (by omega)
    have below := (upper_closer_iff previous).1 (nearest.closest (rank - 1))
    refine ⟨below, above, fun odd => ⟨lt_of_le_of_ne below ?_, lt_of_le_of_ne above ?_⟩⟩
    · intro tie
      have even := nearest.even_of_tie (rank - 1) (by omega) ((tie_iff previous).2 tie.symm).symm
      omega
    · intro tie
      have even := nearest.even_of_tie (rank + 1) (by omega) ((tie_iff next).2 tie)
      omega

/-- The midpoint to a lower rank is no higher than the one to the rank before. -/
theorem midpoint_le_of_lt {other : Nat} (order : other < rank) :
    rankValue other + rankValue rank ≤ rankValue (rank - 1) + rankValue rank := by
  have earlier := rankValue_strictMono.monotone (show other ≤ rank - 1 by omega)
  linarith

/-- The midpoint to a higher rank is no lower than the one to the next rank. -/
theorem le_midpoint_of_lt {other : Nat} (order : rank < other) :
    rankValue rank + rankValue (rank + 1) ≤ rankValue rank + rankValue other := by
  have later := rankValue_strictMono.monotone (show rank + 1 ≤ other by omega)
  linarith

theorem Between.isNearest (between : Between v rank) : IsNearest v rank := by
  obtain ⟨below, above, odd⟩ := between
  constructor
  · intro other
    rcases lt_trichotomy other rank with order | rfl | order
    · have midpoint := midpoint_le_of_lt order
      exact (upper_closer_iff (rankValue_strictMono order)).2 (midpoint.trans below)
    · exact le_rfl
    · have midpoint := le_midpoint_of_lt order
      exact (lower_closer_iff (rankValue_strictMono order)).2 (above.trans midpoint)
  · intro other distinct tie
    by_contra notEven
    obtain ⟨low, high⟩ := odd (by omega)
    rcases Nat.lt_or_gt_of_ne distinct with order | order
    · have middle := (tie_iff (rankValue_strictMono order)).1 tie.symm
      have midpoint := midpoint_le_of_lt order
      linarith
    · have middle := (tie_iff (rankValue_strictMono order)).1 tie
      have midpoint := le_midpoint_of_lt order
      linarith

/-- **The nearest rank** is the one with the value between its midpoints. -/
theorem isNearest_iff_between (nonneg : 0 ≤ v) : IsNearest v rank ↔ Between v rank :=
  ⟨IsNearest.between nonneg, Between.isNearest⟩

end Between

/-! ## Quotients of units -/

/-- **Rounding finds the nearest rank.** -/
theorem isNearest_iff {num den rank : Nat} (pos : 0 < den) :
    IsNearest (num / (den * unitsPerOne)) rank ↔ nearestRank num den = rank := by
  have unit : (0 : ℚ) < unitsPerOne := Nat.cast_pos.2 unitsPerOne_pos
  have step : (0 : ℚ) < den := Nat.cast_pos.2 pos
  have scale : (0 : ℚ) < den * unitsPerOne := mul_pos step unit
  have nonneg : (0 : ℚ) ≤ num / (den * unitsPerOne) := div_nonneg (Nat.cast_nonneg num) scale.le
  have midpoint (low high : Nat) : rankValue low + rankValue high =
      ((units low + units high) * den : Nat) / (den * unitsPerOne) := by
    unfold rankValue
    push_cast
    field_simp
  have double : 2 * ((num : ℚ) / (den * unitsPerOne)) =
      (2 * num : Nat) / (den * unitsPerOne) := by
    push_cast
    ring
  rw [isNearest_iff_between nonneg, nearestRank_eq_iff pos, roundsTo_iff]
  unfold Between
  simp only [midpoint, double, div_le_div_iff_of_pos_right scale, div_lt_div_iff_of_pos_right scale,
    Nat.cast_le, Nat.cast_lt]

/-- Every magnitude is a quotient of units. -/
theorem exists_quotient {v : ℚ} (nonneg : 0 ≤ v) :
    ∃ num den : Nat, 0 < den ∧ v = num / (den * unitsPerOne) := by
  have unit : (unitsPerOne : ℚ) ≠ 0 := (Nat.cast_pos.2 unitsPerOne_pos).ne'
  have numerator : (v.num.toNat : ℚ) = v.num := by
    rw [← Int.cast_natCast, Int.toNat_of_nonneg (Rat.num_nonneg.2 nonneg)]
  refine ⟨v.num.toNat * unitsPerOne, v.den, v.den_pos, ?_⟩
  rw [Nat.cast_mul, mul_div_mul_right _ _ unit, numerator, Rat.num_div_den]

theorem exists_isNearest {v : ℚ} (nonneg : 0 ≤ v) : ∃ rank, IsNearest v rank := by
  obtain ⟨num, den, pos, rfl⟩ := exists_quotient nonneg
  exact ⟨nearestRank num den, (isNearest_iff pos).2 rfl⟩

/-- There is no more than one nearest rank. -/
theorem IsNearest.unique {v : ℚ} {rank rank' : Nat} (nonneg : 0 ≤ v) (nearest : IsNearest v rank)
    (nearest' : IsNearest v rank') : rank = rank' := by
  obtain ⟨num, den, pos, rfl⟩ := exists_quotient nonneg
  rw [← (isNearest_iff pos).1 nearest, ← (isNearest_iff pos).1 nearest']

/-! ## The ends of the range -/

/-- Half way from the largest finite number to the one that would come next. -/
theorem rankValue_rankLimit :
    rankValue (rankLimit - 1) + rankValue rankLimit = 2 * (2 ^ 1024 - 2 ^ 970) := by
  have units : units (rankLimit - 1) + units rankLimit + 2 * 2 ^ 970 * unitsPerOne =
      2 * 2 ^ 1024 * unitsPerOne := by decide +kernel
  have unit : (unitsPerOne : ℚ) ≠ 0 := (Nat.cast_pos.2 unitsPerOne_pos).ne'
  have values := congrArg (Nat.cast (R := ℚ)) units
  unfold rankValue
  generalize 1024 = high, 970 = low at values ⊢
  push_cast at values
  field_simp
  linarith

/-- Half way from zero to the least positive number. -/
theorem rankValue_one : rankValue 0 + rankValue 1 = 2 * (1 / 2 ^ 1075) := by
  have one : units 1 = 1 := by decide
  have twice : 2 ^ 1075 = 2 * unitsPerOne := by decide +kernel
  have unit : (unitsPerOne : ℚ) ≠ 0 := (Nat.cast_pos.2 unitsPerOne_pos).ne'
  have power := congrArg (Nat.cast (R := ℚ)) twice
  rw [rankValue_zero, rankValue, one]
  generalize 1075 = exponent at power ⊢
  push_cast at power
  rw [power, Nat.cast_one, mul_one_div, div_mul_cancel_left₀ two_ne_zero, zero_add, one_div]

section Ends

variable {v : ℚ} {rank : Nat}

/-- **An overflow** needs a value that is at least half way to what would come next to the
largest finite number. -/
theorem IsNearest.lt_rankLimit_iff (nonneg : 0 ≤ v) (nearest : IsNearest v rank) :
    rank < rankLimit ↔ v < 2 ^ 1024 - 2 ^ 970 := by
  obtain ⟨below, above, odd⟩ := nearest.between nonneg
  have limit := rankValue_rankLimit
  generalize (2 ^ 1024 - 2 ^ 970 : ℚ) = bound at limit ⊢
  constructor
  · intro finite
    by_cases largest : rank = rankLimit - 1
    · have isOdd : rank % 2 = 1 := by
        rw [largest]
        decide
      have strict := (odd isOdd).2
      rw [largest] at strict
      have next : rankLimit - 1 + 1 = rankLimit := by decide
      rw [next] at strict
      linarith
    · have first : rankValue rank < rankValue (rankLimit - 1) := rankValue_strictMono (by omega)
      have second : rankValue (rank + 1) ≤ rankValue rankLimit :=
        rankValue_strictMono.monotone (by omega)
      linarith
  · intro small
    by_contra beyond
    have first : rankValue (rankLimit - 1) ≤ rankValue (rank - 1) :=
      rankValue_strictMono.monotone (by omega)
    have second : rankValue rankLimit ≤ rankValue rank := rankValue_strictMono.monotone (by omega)
    linarith

/-- **What is rounded to zero** is at most half of the least positive number. -/
theorem IsNearest.eq_zero_iff (nonneg : 0 ≤ v) (nearest : IsNearest v rank) :
    rank = 0 ↔ v ≤ 1 / 2 ^ 1075 := by
  obtain ⟨below, above, odd⟩ := nearest.between nonneg
  have least := rankValue_one
  generalize (1 / 2 ^ 1075 : ℚ) = bound at least ⊢
  constructor
  · rintro rfl
    rw [Nat.zero_add] at above
    linarith
  · intro small
    by_contra positive
    by_cases one : rank = 1
    · subst one
      have strict := (odd rfl).1
      rw [Nat.sub_self] at strict
      linarith
    · have first : rankValue 0 < rankValue (rank - 1) := rankValue_strictMono (by omega)
      have second : rankValue 1 < rankValue rank := rankValue_strictMono (by omega)
      linarith

end Ends

/-! ## Rounding a magnitude with a sign -/

/-- Whether a number is what the magnitude `v` with a sign is rounded to. -/
def RoundsTo (negative : Bool) (v : ℚ) (x : Binary64) : Prop :=
  ∃ rank, IsNearest v rank ∧ x = ofRank negative rank

theorem RoundsTo.unique {negative : Bool} {v : ℚ} {x y : Binary64} (nonneg : 0 ≤ v)
    (hx : RoundsTo negative v x) (hy : RoundsTo negative v y) : x = y := by
  obtain ⟨rank, nearest, rfl⟩ := hx
  obtain ⟨rank', nearest', rfl⟩ := hy
  rw [nearest.unique nonneg nearest']

theorem roundsTo_ofMagnitude (negative : Bool) (num : Nat) {den : Nat} (pos : 0 < den) :
    RoundsTo negative (num / (den * unitsPerOne)) (ofMagnitude negative num den) :=
  ⟨nearestRank num den, (isNearest_iff pos).2 rfl, ofMagnitude_eq negative num den⟩

section Ends

variable {v : ℚ} (negative : Bool)

theorem roundsTo_zero (nonneg : 0 ≤ v) (small : v ≤ 1 / 2 ^ 1075) :
    RoundsTo negative v (zero negative) := by
  obtain ⟨rank, nearest⟩ := exists_isNearest nonneg
  obtain rfl : rank = 0 := (nearest.eq_zero_iff nonneg).2 small
  exact ⟨0, nearest, rfl⟩

theorem roundsTo_infinite (large : 2 ^ 1024 - 2 ^ 970 ≤ v) :
    RoundsTo negative v (.infinite negative) := by
  have powers : (2 : ℚ) ^ 970 ≤ 2 ^ 1024 := pow_le_pow_right₀ one_le_two (by decide)
  have nonneg : 0 ≤ v := (sub_nonneg.2 powers).trans large
  obtain ⟨rank, nearest⟩ := exists_isNearest nonneg
  have beyond : ¬ rank < rankLimit := by
    rw [nearest.lt_rankLimit_iff nonneg, not_lt]
    exact large
  have overflow : ofRank negative rank = .infinite negative := dif_neg beyond
  exact ⟨rank, nearest, overflow.symm⟩

end Ends

/-- **What is rounded to an amount**: a magnitude that does not overflow, and with a minus
sign only one that is rounded to zero. -/
theorem RoundsTo.isAmount_iff_bounds {negative : Bool} {v : ℚ} {x : Binary64} (nonneg : 0 ≤ v)
    (rounds : RoundsTo negative v x) :
    x.IsAmount ↔ v < 2 ^ 1024 - 2 ^ 970 ∧ (negative = true → v ≤ 1 / 2 ^ 1075) := by
  obtain ⟨rank, nearest, rfl⟩ := rounds
  rw [← nearest.lt_rankLimit_iff nonneg, ← nearest.eq_zero_iff nonneg]
  constructor
  · intro amount
    have finite : rank < rankLimit := isFinite_ofRank.1 amount.1
    have number : ofRank negative rank = .finite negative ⟨rank, finite⟩ := dif_pos finite
    rw [number] at amount
    obtain ⟨s, r, eq, unsigned⟩ := isAmount_iff.1 amount
    cases eq
    exact ⟨finite, unsigned⟩
  · rintro ⟨finite, zero⟩
    exact (isAmount_ofRank finite zero).1

end Dashboard.Binary64
