import Dashboard.Binary64.Shortest
import Mathlib.Order.Monotone.Basic
import Mathlib.Tactic.Ring

/-!
# Rounding to a rank

`nearestRank` computes the rank of a quotient from its leading 53 bits.  What it
computes is said without bits by `Shortest.roundsTo`, which compares the quotient with
the midpoints between neighbouring ranks: `nearestRank` finds the one rank between
whose midpoints the quotient lies.

## The fact the module rests on

Where `s` bits are dropped, the ranks `s * 2 ^ 52 + m` have the values `m * 2 ^ s`, for
all `m` from `2 ^ 52` to `2 ^ 53` inclusive.  So the ends of two neighbouring ranges of
values fit together, and a quotient that is rounded up to the next range needs no case
of its own.

## Main results

* `units_shift`, `units_strictMono` — the values of ranks.
* `roundsTo_nearestRank` — a quotient lies between the midpoints of its rank.
* `le_of_roundsTo` — it does so for no other rank, and larger quotients have larger
  ranks.
* `nearestRank_mono`, `nearestRank_units` — rounding is monotone, and a value that has a
  rank is not changed.
-/

namespace Dashboard.Binary64

open Shortest (roundsTo)

/-! ## The values of ranks -/

/-- **The values of ranks** where `s` bits are dropped. -/
theorem units_shift {s m : Nat} (leading : s = 0 ∨ 2 ^ 52 ≤ m) (bound : m ≤ 2 ^ 53) :
    units (s * 2 ^ 52 + m) = m * 2 ^ s := by
  unfold units
  simp only [Nat.pow_eq]
  by_cases subnormal : m < 2 ^ 52
  · obtain rfl : s = 0 := by omega
    have field : (0 * 2 ^ 52 + m) / 2 ^ 52 = 0 := by omega
    rw [if_pos field]
    omega
  by_cases carried : m = 2 ^ 53
  · subst carried
    have field : (s * 2 ^ 52 + 2 ^ 53) / 2 ^ 52 = s + 2 := by omega
    have fraction : (s * 2 ^ 52 + 2 ^ 53) % 2 ^ 52 = 0 := by omega
    rw [field, fraction, if_neg (by omega), show s + 2 - 1 = s + 1 by omega, Nat.pow_succ]
    omega
  · have field : (s * 2 ^ 52 + m) / 2 ^ 52 = s + 1 := by omega
    have fraction : (s * 2 ^ 52 + m) % 2 ^ 52 = m - 2 ^ 52 := by omega
    rw [field, fraction, if_neg (by omega), show s + 1 - 1 = s by omega,
      show 2 ^ 52 + (m - 2 ^ 52) = m by omega]

/-- Every rank has a value of this form. -/
theorem exists_shift (rank : Nat) :
    ∃ s m, rank = s * 2 ^ 52 + m ∧ (s = 0 ∨ 2 ^ 52 ≤ m) ∧ m < 2 ^ 53 :=
  ⟨rank / 2 ^ 52 - 1, rank - (rank / 2 ^ 52 - 1) * 2 ^ 52, by omega, by omega, by omega⟩

theorem units_strictMono : StrictMono units := by
  refine strictMono_nat_of_lt_succ fun rank => ?_
  obtain ⟨s, m, rfl, leading, bound⟩ := exists_shift rank
  have next : units (s * 2 ^ 52 + m + 1) = (m + 1) * 2 ^ s := by
    rw [Nat.add_assoc]
    exact units_shift (by omega) (by omega)
  rw [next, units_shift leading bound.le]
  exact Nat.mul_lt_mul_of_pos_right (Nat.lt_succ_self m) (Nat.two_pow_pos s)

theorem units_zero : units 0 = 0 := by simp [units]

theorem units_pos {rank : Nat} (nonzero : rank ≠ 0) : 0 < units rank := by
  have larger : units 0 < units rank := units_strictMono (Nat.pos_of_ne_zero nonzero)
  rwa [units_zero] at larger

/-! ## Rounding to a whole number -/

/-- A quotient lies between the midpoints of the whole number it is rounded to.  If it
lies on one of them, the whole number is even. -/
theorem roundDiv_bounds (num : Nat) {den : Nat} (pos : 0 < den) :
    2 * (roundDiv num den * den) ≤ 2 * num + den ∧
      2 * num ≤ 2 * (roundDiv num den * den) + den ∧
      (roundDiv num den % 2 = 1 →
        2 * (roundDiv num den * den) < 2 * num + den ∧
          2 * num < 2 * (roundDiv num den * den) + den) := by
  have split : num / den * den + num % den = num := by
    rw [Nat.mul_comm]
    exact Nat.div_add_mod num den
  have rest : num % den < den := Nat.mod_lt num pos
  unfold roundDiv
  dsimp only
  split_ifs with up
  · rw [Nat.add_mul, Nat.one_mul]
    omega
  · omega

theorem roundDiv_le {num den bound : Nat} (pos : 0 < den) (small : num < bound * den) :
    roundDiv num den ≤ bound := by
  obtain ⟨lower, -, -⟩ := roundDiv_bounds num pos
  by_contra larger
  have next := Nat.mul_le_mul_right den (Nat.lt_of_not_le larger)
  rw [Nat.succ_mul] at next
  omega

theorem le_roundDiv {num den bound : Nat} (pos : 0 < den) (large : bound * den ≤ num) :
    bound ≤ roundDiv num den := by
  obtain ⟨-, upper, -⟩ := roundDiv_bounds num pos
  by_contra smaller
  have next := Nat.mul_le_mul_right den (Nat.lt_of_not_le smaller)
  rw [Nat.succ_mul] at next
  omega

/-! ## Rounding to a rank -/

/-- The bits of a quotient that are dropped, and what is left of it. -/
theorem exists_nearestRank_eq (num : Nat) {den : Nat} (pos : 0 < den) :
    ∃ s, nearestRank num den = s * 2 ^ 52 + roundDiv num (den * 2 ^ s) ∧
      (s = 0 ∨ 2 ^ 52 * (den * 2 ^ s) ≤ num) ∧ num < 2 ^ 53 * (den * 2 ^ s) := by
  refine ⟨(num / den).log2 - 52, rfl, ?_, ?_⟩
  · by_cases short : (num / den).log2 ≤ 52
    · exact .inl (by omega)
    · right
      have nonzero : num / den ≠ 0 := by
        intro zero
        rw [zero, Nat.log2_zero] at short
        omega
      have low := Nat.log2_self_le nonzero
      rw [Nat.le_div_iff_mul_le pos] at low
      calc 2 ^ 52 * (den * 2 ^ ((num / den).log2 - 52))
          = 2 ^ (52 + ((num / den).log2 - 52)) * den := by rw [Nat.pow_add]; ring
        _ = 2 ^ (num / den).log2 * den := by congr 2; omega
        _ ≤ num := low
  · have high : num / den < 2 ^ ((num / den).log2 + 1) := Nat.lt_log2_self
    rw [Nat.div_lt_iff_lt_mul pos] at high
    calc num < 2 ^ ((num / den).log2 + 1) * den := high
      _ ≤ 2 ^ (53 + ((num / den).log2 - 52)) * den :=
          Nat.mul_le_mul_right _ (Nat.pow_le_pow_right (by decide) (by omega))
      _ = 2 ^ 53 * (den * 2 ^ ((num / den).log2 - 52)) := by rw [Nat.pow_add]; ring

/-! ## Midpoints -/

theorem roundsTo_iff {rank n den : Nat} : roundsTo rank n den = true ↔
    (units (rank - 1) + units rank) * den ≤ n ∧ n ≤ (units rank + units (rank + 1)) * den ∧
      (rank % 2 = 1 → (units (rank - 1) + units rank) * den < n ∧
        n < (units rank + units (rank + 1)) * den) := by
  unfold roundsTo
  dsimp only
  split_ifs with even
  · rw [decide_eq_true_iff]
    omega
  · rw [decide_eq_true_iff]
    omega

section Midpoint

variable {s q : Nat} (den : Nat)

/-- The midpoint below a rank, unless the rank is the first one of its range. -/
theorem low_midpoint (inner : s = 0 ∨ 2 ^ 52 < q) (positive : 0 < q) (bound : q ≤ 2 ^ 53) :
    (units (s * 2 ^ 52 + q - 1) + units (s * 2 ^ 52 + q)) * den + den * 2 ^ s =
      2 * (q * (den * 2 ^ s)) := by
  obtain ⟨p, rfl⟩ : ∃ p, q = p + 1 := ⟨q - 1, by omega⟩
  rw [Nat.add_succ_sub_one, units_shift (s := s) (m := p) (by omega) (by omega),
    units_shift (by omega) bound]
  ring

/-- The midpoint above a rank, unless the rank is the last one of its range. -/
theorem high_midpoint (leading : s = 0 ∨ 2 ^ 52 ≤ q) (bound : q < 2 ^ 53) :
    (units (s * 2 ^ 52 + q) + units (s * 2 ^ 52 + q + 1)) * den =
      2 * (q * (den * 2 ^ s)) + den * 2 ^ s := by
  rw [Nat.add_assoc, units_shift leading bound.le,
    units_shift (s := s) (m := q + 1) (by omega) (by omega)]
  ring

end Midpoint

/-- **A quotient lies between the midpoints of the rank it is rounded to.** -/
theorem roundsTo_nearestRank (num : Nat) {den : Nat} (pos : 0 < den) :
    roundsTo (nearestRank num den) (2 * num) den = true := by
  obtain ⟨s, rank, low, high⟩ := exists_nearestRank_eq num pos
  have unit : 0 < den * 2 ^ s := Nat.mul_pos pos (Nat.two_pow_pos s)
  obtain ⟨down, up, odd⟩ := roundDiv_bounds num unit
  have bound : roundDiv num (den * 2 ^ s) ≤ 2 ^ 53 := roundDiv_le unit high
  have leading : s = 0 ∨ 2 ^ 52 ≤ roundDiv num (den * 2 ^ s) := low.imp_right (le_roundDiv unit)
  rw [rank]
  generalize roundDiv num (den * 2 ^ s) = q at *
  have parity : (s * 2 ^ 52 + q) % 2 = q % 2 := by omega
  have value : units (s * 2 ^ 52 + q) * den = q * (den * 2 ^ s) := by
    rw [units_shift leading bound]
    ring
  rw [roundsTo_iff, parity]
  have below : (units (s * 2 ^ 52 + q - 1) + units (s * 2 ^ 52 + q)) * den ≤ 2 * num ∧
      (q % 2 = 1 →
        (units (s * 2 ^ 52 + q - 1) + units (s * 2 ^ 52 + q)) * den < 2 * num) := by
    by_cases inner : (s = 0 ∨ 2 ^ 52 < q) ∧ 0 < q
    · have midpoint := low_midpoint den inner.1 inner.2 bound
      omega
    · -- The first rank of a range: what is rounded to it is not smaller than its value.
      have reached : q * (den * 2 ^ s) ≤ num := by
        rcases Nat.eq_zero_or_pos q with rfl | positive
        · omega
        · obtain rfl : q = 2 ^ 52 := by omega
          exact low.resolve_left (by omega)
      have earlier : units (s * 2 ^ 52 + q - 1) ≤ units (s * 2 ^ 52 + q) :=
        units_strictMono.monotone (Nat.sub_le _ 1)
      have sides := Nat.mul_le_mul_right den (Nat.add_le_add_right earlier (units (s * 2 ^ 52 + q)))
      rw [Nat.add_mul (units (s * 2 ^ 52 + q)), value] at sides
      omega
  have above : 2 * num ≤ (units (s * 2 ^ 52 + q) + units (s * 2 ^ 52 + q + 1)) * den ∧
      (q % 2 = 1 →
        2 * num < (units (s * 2 ^ 52 + q) + units (s * 2 ^ 52 + q + 1)) * den) := by
    by_cases inner : q < 2 ^ 53
    · have midpoint := high_midpoint den leading inner
      omega
    · -- The last rank of a range: what is rounded to it is smaller than its value.
      obtain rfl : q = 2 ^ 53 := by omega
      have later : units (s * 2 ^ 52 + 2 ^ 53) ≤ units (s * 2 ^ 52 + 2 ^ 53 + 1) :=
        units_strictMono.monotone (Nat.le_succ _)
      have sides := Nat.mul_le_mul_right den
        (Nat.add_le_add_left later (units (s * 2 ^ 52 + 2 ^ 53)))
      rw [Nat.add_mul (units (s * 2 ^ 52 + 2 ^ 53)), value] at sides
      omega
  exact ⟨below.1, above.1, fun odd => ⟨below.2 odd, above.2 odd⟩⟩

/-- **A larger quotient has a larger rank**, and a quotient has no more than one. -/
theorem le_of_roundsTo {rank rank' num num' den den' : Nat} (pos : 0 < den) (pos' : 0 < den')
    (rounds : roundsTo rank (2 * num) den = true) (rounds' : roundsTo rank' (2 * num') den' = true)
    (order : num * den' ≤ num' * den) : rank ≤ rank' := by
  by_contra larger
  obtain ⟨low, -, odd⟩ := roundsTo_iff.1 rounds
  obtain ⟨-, high, odd'⟩ := roundsTo_iff.1 rounds'
  generalize lowEnd : units (rank - 1) + units rank = lower at low odd
  generalize highEnd : units rank' + units (rank' + 1) = upper at high odd'
  have first : units rank' ≤ units (rank - 1) := units_strictMono.monotone (by omega)
  have second : units (rank' + 1) ≤ units rank := units_strictMono.monotone (by omega)
  -- The midpoint above the smaller rank is not above the one below the larger rank.
  have ends : upper * (den * den') ≤ lower * (den * den') := Nat.mul_le_mul_right _ (by omega)
  have lowered : lower * den * den' ≤ 2 * num * den' := Nat.mul_le_mul_right _ low
  have raised : 2 * num' * den ≤ upper * den' * den := Nat.mul_le_mul_right _ high
  have middle : 2 * num * den' ≤ 2 * num' * den := by
    rw [Nat.mul_assoc, Nat.mul_assoc]
    omega
  have same : lower * den * den' = lower * (den * den') := Nat.mul_assoc _ _ _
  have same' : upper * den' * den = upper * (den * den') := by ring
  have both : 0 < den * den' := Nat.mul_pos pos pos'
  by_cases adjacent : rank = rank' + 1
  · rcases Nat.mod_two_eq_zero_or_one rank with even | isOdd
    · have strict := Nat.mul_lt_mul_of_pos_right (odd' (by omega)).2 pos
      omega
    · have strict := Nat.mul_lt_mul_of_pos_right (odd isOdd).1 pos'
      omega
  · have gap : units rank' < units (rank - 1) := units_strictMono (by omega)
    have strict : upper * (den * den') < lower * (den * den') :=
      Nat.mul_lt_mul_of_pos_right (by omega) both
    omega

/-! ## What rounding keeps -/

variable {num num' den den' : Nat}

theorem nearestRank_eq_iff (pos : 0 < den) {rank : Nat} :
    nearestRank num den = rank ↔ roundsTo rank (2 * num) den = true := by
  constructor
  · rintro rfl
    exact roundsTo_nearestRank num pos
  · intro rounds
    have found := roundsTo_nearestRank num pos
    exact Nat.le_antisymm (le_of_roundsTo pos pos found rounds le_rfl)
      (le_of_roundsTo pos pos rounds found le_rfl)

/-- **Rounding is monotone.** -/
theorem nearestRank_mono (pos : 0 < den) (pos' : 0 < den') (order : num * den' ≤ num' * den) :
    nearestRank num den ≤ nearestRank num' den' :=
  le_of_roundsTo pos pos' (roundsTo_nearestRank num pos) (roundsTo_nearestRank num' pos') order

/-- **The value of a rank is rounded to this rank.** -/
theorem nearestRank_units (pos : 0 < den) (rank : Nat) :
    nearestRank (units rank * den) den = rank := by
  rw [nearestRank_eq_iff pos, roundsTo_iff, ← Nat.mul_assoc]
  have earlier : units (rank - 1) ≤ units rank := units_strictMono.monotone (Nat.sub_le _ 1)
  have later : units rank < units (rank + 1) := units_strictMono (Nat.lt_succ_self rank)
  refine ⟨Nat.mul_le_mul_right den (by omega), Nat.mul_le_mul_right den (by omega), ?_⟩
  intro odd
  have earlier : units (rank - 1) < units rank := units_strictMono (by omega)
  exact ⟨Nat.mul_lt_mul_of_pos_right (by omega) pos, Nat.mul_lt_mul_of_pos_right (by omega) pos⟩

end Dashboard.Binary64
