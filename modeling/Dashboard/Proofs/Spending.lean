import Dashboard.Budget
import Dashboard.Proofs.Binary64.Operations

/-!
# What is spent of the budget

The percentage of the budget is computed by a division and a multiplication, each
rounded, and the alert compares it with its thresholds.

## The fact the module rests on

On ranks both steps are `nearestRank`, which is monotone, and it does not change a value
that has a rank.  So the rank of the percentage grows with the usage, and it is at least
the rank of 100 where the budget is spent.  This is so for every budget, however small,
and for every usage; but a rank past the last finite one is no percentage, and the
dashboard then shows zero.

## Main definitions

* `Budget.InRange` — the percentage can be computed without an overflow.
* `Severity.level` — the order of the severities.

## Main results

* `Budget.alert_rises` — more spending never lowers the alert, up to the overflow, which
  needs a usage of more than `2 ^ 1017` budgets.
* `Budget.drawable` — the percentage is finite and the gauge is given a ratio between
  zero and one, whatever the figures are.
-/

namespace Dashboard

open Binary64

/-! ## Severities in order -/

/-- The place of a severity in their order. -/
def Severity.level : Severity → Nat
  | .normal => 0
  | .warning => 1
  | .critical => 2

/-- A higher percentage is never less serious. -/
theorem Severity.ofPercent_mono {low high : Binary64} (order : low ≤ high) :
    (ofPercent low).level ≤ (ofPercent high).level := by
  have passes {threshold : Binary64} (reached : threshold ≤ low) : threshold ≤ high :=
    Binary64.le_trans reached order
  unfold ofPercent
  by_cases critical : 95 ≤ low
  · rw [if_pos critical, if_pos (passes critical)]
  by_cases warning : 80 ≤ low
  · rw [if_neg critical, if_pos warning, if_pos (passes warning)]
    split_ifs <;> decide
  · rw [if_neg critical, if_neg warning]
    exact Nat.zero_le _

namespace Budget

/-- The percentage of the budget that is spent can be computed without an overflow. -/
def InRange (b : Budget) : Prop := (b.usage / b.monthly * 100).isFinite = true

instance (b : Budget) : Decidable b.InRange :=
  inferInstanceAs (Decidable ((b.usage / b.monthly * 100).isFinite = true))

theorem usagePercent_of_inRange {b : Budget} (inRange : b.InRange) (positive : ¬ b.monthly ≤ 0) :
    b.usagePercent = b.usage / b.monthly * 100 := by
  unfold usagePercent
  rw [if_neg positive]
  exact if_pos inRange

theorem usagePercent_of_overflow {b : Budget} (overflow : ¬ b.InRange) : b.usagePercent = 0 := by
  unfold usagePercent
  split_ifs with none
  · rfl
  · exact if_neg overflow

theorem usagePercent_eq_zero_or (b : Budget) :
    b.usagePercent = 0 ∨ ¬ b.monthly ≤ 0 ∧ b.InRange := by
  by_cases none : b.monthly ≤ 0
  · exact .inl (if_pos none)
  by_cases inRange : b.InRange
  · exact .inr ⟨none, inRange⟩
  · exact .inl (usagePercent_of_overflow inRange)

/-! ## The percentage by rank -/

/-- The rank of one. -/
def oneRank : Fin rankLimit := ⟨1023 * 2 ^ 52, by decide⟩

/-- The rank of a hundred. -/
def hundredRank : Fin rankLimit := ⟨0x4059000000000000, by decide⟩

theorem hundred_eq : (100 : Binary64) = .finite false hundredRank := by decide +kernel

theorem units_oneRank : units oneRank = unitsPerOne := by decide +kernel

theorem one_le_hundred : unitsPerOne ≤ units hundredRank := by decide +kernel

/-- The rank of the percentage that the rank of a usage is of the rank of a budget. -/
def percentRank (monthly usage : Nat) : Nat :=
  nearestRank (units (nearestRank (units usage * unitsPerOne) (units monthly)) * units hundredRank)
    unitsPerOne

section Percent

variable {s t : Bool} {m u v : Fin rankLimit}

theorem percent_eq (nonzero : m.val ≠ 0) :
    Binary64.finite s u / .finite false m * 100 = ofRank s (percentRank m u) := by
  rw [hundred_eq, finite_div_finite nonzero, ofRank_mul_finite _ one_le_hundred,
    Bool.xor_false, Bool.xor_false]
  rfl

theorem percentRank_mono (nonzero : m.val ≠ 0) (order : u.val ≤ v.val) :
    percentRank m u ≤ percentRank m v := by
  have budget : 0 < units m := units_pos nonzero
  have usage : units u ≤ units v := units_strictMono.monotone order
  have quotient := nearestRank_mono budget budget
    (Nat.mul_le_mul_right _ (Nat.mul_le_mul_right unitsPerOne usage))
  exact nearestRank_mono unitsPerOne_pos unitsPerOne_pos
    (Nat.mul_le_mul_right _ (Nat.mul_le_mul_right _ (units_strictMono.monotone quotient)))

theorem percentRank_zero (m : Nat) : percentRank m 0 = 0 := by
  simp [percentRank, nearestRank, roundDiv, units_zero]

/-- What is at least the budget is at least a hundred percent of it. -/
theorem hundredRank_le_percentRank (nonzero : m.val ≠ 0) (spent : m.val ≤ v.val) :
    hundredRank.val ≤ percentRank m v := by
  have budget : 0 < units m := units_pos nonzero
  have usage : units m ≤ units v := units_strictMono.monotone spent
  have whole : oneRank.val ≤ nearestRank (units v * unitsPerOne) (units m) := by
    rw [← nearestRank_units Nat.one_pos oneRank, units_oneRank]
    refine nearestRank_mono Nat.one_pos budget ?_
    rw [Nat.mul_one, Nat.mul_one, Nat.mul_comm]
    exact Nat.mul_le_mul_right unitsPerOne usage
  have quotient : units oneRank ≤ units (nearestRank (units v * unitsPerOne) (units m)) :=
    units_strictMono.monotone whole
  rw [units_oneRank] at quotient
  rw [← nearestRank_units unitsPerOne_pos hundredRank, percentRank]
  refine nearestRank_mono unitsPerOne_pos unitsPerOne_pos (Nat.mul_le_mul_right _ ?_)
  rw [Nat.mul_comm]
  exact Nat.mul_le_mul_right _ quotient

/-- There is no overflow before the usage is `2 ^ 1017` budgets. -/
theorem percentRank_lt (nonzero : m.val ≠ 0) (bound : units v ≤ 2 ^ 1017 * units m) :
    percentRank m v < rankLimit := by
  -- The rank of `2 ^ 1017`, of which a hundred times is still finite.
  let large : Nat := 2040 * 2 ^ 52
  have value : units large = 2 ^ 1017 * unitsPerOne := by decide +kernel
  generalize 2 ^ 1017 = factor at bound value
  have quotient : nearestRank (units v * unitsPerOne) (units m) ≤ large := by
    rw [← nearestRank_units Nat.one_pos large, value]
    refine nearestRank_mono (units_pos nonzero) Nat.one_pos ?_
    calc units v * unitsPerOne * 1 = units v * unitsPerOne := Nat.mul_one _
      _ ≤ factor * units m * unitsPerOne := Nat.mul_le_mul_right _ bound
      _ = factor * unitsPerOne * 1 * units m := by ring
  calc percentRank m v ≤ nearestRank (units large * units hundredRank) unitsPerOne :=
        nearestRank_mono unitsPerOne_pos unitsPerOne_pos
          (Nat.mul_le_mul_right _ (Nat.mul_le_mul_right _ (units_strictMono.monotone quotient)))
    _ < rankLimit := by decide +kernel

theorem inRange_iff (nonzero : m.val ≠ 0) :
    InRange ⟨.finite false m, .finite s u⟩ ↔ percentRank m u < rankLimit := by
  unfold InRange
  rw [percent_eq nonzero, isFinite_ofRank]

theorem not_le_zero (nonzero : m.val ≠ 0) : ¬ Binary64.finite false m ≤ 0 := by
  refine not_le_of_lt (lt_iff.2 ⟨0, m.val, position_zero, rfl, ?_⟩)
  omega

/-- **The percentage of an amount is an amount**, with the rank computed above. -/
theorem usagePercent_rank (nonzero : m.val ≠ 0) (unsigned : s = true → u.val = 0)
    (inRange : InRange ⟨.finite false m, .finite s u⟩) :
    (usagePercent ⟨.finite false m, .finite s u⟩).IsAmount ∧
      (usagePercent ⟨.finite false m, .finite s u⟩).rank = percentRank m u := by
  rw [usagePercent_of_inRange inRange (not_le_zero nonzero)]
  dsimp only
  rw [percent_eq nonzero]
  refine isAmount_ofRank ((inRange_iff nonzero).1 inRange) ?_
  intro negative
  rw [unsigned negative, percentRank_zero]

theorem usagePercent_mono (nonzero : m.val ≠ 0) (unsigned : s = true → u.val = 0)
    (unsigned' : t = true → v.val = 0) (order : u.val ≤ v.val)
    (inRange : InRange ⟨.finite false m, .finite t v⟩) :
    usagePercent ⟨.finite false m, .finite s u⟩ ≤
      usagePercent ⟨.finite false m, .finite t v⟩ := by
  have percents := percentRank_mono nonzero order
  have inRange' : InRange ⟨.finite false m, .finite s u⟩ := by
    rw [inRange_iff nonzero] at inRange ⊢
    omega
  obtain ⟨low, lowRank⟩ := usagePercent_rank nonzero unsigned inRange'
  obtain ⟨high, highRank⟩ := usagePercent_rank nonzero unsigned' inRange
  rw [le_iff_rank_le low high, lowRank, highRank]
  exact percents

/-- Where the budget is spent, the alert is the highest one. -/
theorem severity_of_spent (nonzero : m.val ≠ 0) (unsigned : t = true → v.val = 0)
    (spent : m.val ≤ v.val) (inRange : InRange ⟨.finite false m, .finite t v⟩) :
    severity ⟨.finite false m, .finite t v⟩ = .critical := by
  obtain ⟨amount, rank⟩ := usagePercent_rank nonzero unsigned inRange
  have whole : (100 : Binary64) ≤ usagePercent ⟨.finite false m, .finite t v⟩ := by
    rw [le_iff_rank_le (by decide +kernel) amount, rank, hundred_eq]
    exact hundredRank_le_percentRank nonzero spent
  have reached : (95 : Binary64) ≤ 100 := by decide +kernel
  rw [severity, Severity.ofPercent, if_pos (Binary64.le_trans reached whole)]

end Percent

theorem isAmount_usagePercent {b : Budget} (budget : b.monthly.IsAmount)
    (spent : b.usage.IsAmount) : b.usagePercent.IsAmount := by
  rcases b.usagePercent_eq_zero_or with zero | ⟨positive, inRange⟩
  · rw [zero]
    exact isAmount_zero
  · obtain ⟨monthly, usage⟩ := b
    obtain ⟨m, nonzero, rfl⟩ := budget.exists_rank positive
    obtain ⟨s, u, rfl, unsigned⟩ := isAmount_iff.1 spent
    exact (usagePercent_rank nonzero unsigned inRange).1

/-! ## The alert -/

/-- **More spending never lowers the alert**, as long as the percentage can be computed
without an overflow.  It can be up to `2 ^ 1017` budgets; where it cannot, the dashboard
shows a percentage of zero, and no alert. -/
theorem alert_rises {monthly usage more : Binary64} (budget : monthly.IsAmount)
    (positive : 0 < monthly) (spent : usage.IsAmount) (spentMore : more.IsAmount)
    (order : usage ≤ more) :
    (InRange ⟨monthly, more⟩ →
      usagePercent ⟨monthly, usage⟩ ≤ usagePercent ⟨monthly, more⟩ ∧
        (severity ⟨monthly, usage⟩).level ≤ (severity ⟨monthly, more⟩).level ∧
          (monthly ≤ more → severity ⟨monthly, more⟩ = .critical)) ∧
      (¬ InRange ⟨monthly, more⟩ →
        usagePercent ⟨monthly, more⟩ = 0 ∧ severity ⟨monthly, more⟩ = .normal) ∧
      (units more.rank ≤ 2 ^ 1017 * units monthly.rank → InRange ⟨monthly, more⟩) := by
  obtain ⟨m, nonzero, rfl⟩ := budget.exists_rank (not_le_of_lt positive)
  obtain ⟨s, u, rfl, unsigned⟩ := isAmount_iff.1 spent
  obtain ⟨t, v, rfl, unsigned'⟩ := isAmount_iff.1 spentMore
  have ranks : u.val ≤ v.val := (le_iff_rank_le spent spentMore).1 order
  refine ⟨?inRange, ?overflow, ?bound⟩
  case inRange =>
    intro inRange
    have rises := usagePercent_mono nonzero unsigned unsigned' ranks inRange
    refine ⟨rises, Severity.ofPercent_mono rises, ?_⟩
    intro depleted
    have depletedRank : m.val ≤ v.val := (le_iff_rank_le budget spentMore).1 depleted
    exact severity_of_spent nonzero unsigned' depletedRank inRange
  case overflow =>
    intro overflow
    have nothing := usagePercent_of_overflow overflow
    refine ⟨nothing, ?_⟩
    rw [severity, nothing]
    decide +kernel
  case bound =>
    intro bound
    exact (inRange_iff nonzero).2 (percentRank_lt nonzero bound)

theorem alert_rises_at_budget :
    (80 : Binary64).IsAmount ∧ (0 : Binary64) < 80 ∧ (68 : Binary64).IsAmount ∧
      (68 : Binary64) ≤ 80 ∧ InRange ⟨80, 80⟩ ∧ severity ⟨80, 68⟩ = .warning ∧
        usagePercent ⟨80, 68⟩ ≤ usagePercent ⟨80, 80⟩ ∧ severity ⟨80, 80⟩ = .critical := by
  have budget : (80 : Binary64).IsAmount := by decide +kernel
  have positive : (0 : Binary64) < 80 := by decide +kernel
  have spent : (68 : Binary64).IsAmount := by decide +kernel
  have order : (68 : Binary64) ≤ 80 := by decide +kernel
  have warned : severity ⟨80, 68⟩ = .warning := by decide +kernel
  obtain ⟨rises, -, bound⟩ := alert_rises budget positive spent budget order
  have inRange : InRange ⟨80, 80⟩ := bound (by decide +kernel)
  obtain ⟨percents, -, depleted⟩ := rises inRange
  exact ⟨budget, positive, spent, order, inRange, warned, percents, depleted (by decide +kernel)⟩

/-- **An overflow lowers the alert.**  A budget of the least positive amount is spent by
the same amount; when the usage is `1e308`, the percentage is too large for a number. -/
theorem alert_falls_by_overflow : ¬ ∀ monthly usage more : Binary64, monthly.IsAmount →
    0 < monthly → usage.IsAmount → more.IsAmount → usage ≤ more →
      usagePercent ⟨monthly, usage⟩ ≤ usagePercent ⟨monthly, more⟩ ∧
        (severity ⟨monthly, usage⟩).level ≤ (severity ⟨monthly, more⟩).level ∧
          (monthly ≤ more → severity ⟨monthly, more⟩ = .critical) := by
  intro claim
  have least := claim (.finite false ⟨1, by decide⟩) (.finite false ⟨1, by decide⟩)
    (.finite false ⟨0x7fe1ccf385ebc8a0, by decide⟩) (by decide +kernel) (by decide +kernel)
    (by decide +kernel) (by decide +kernel) (by decide +kernel)
  exact absurd least (by decide +kernel)

/-! ## What is drawn -/

theorem isFinite_usagePercent (b : Budget) : b.usagePercent.isFinite = true := by
  rcases b.usagePercent_eq_zero_or with zero | ⟨positive, inRange⟩
  · rw [zero]
    exact isAmount_zero.1
  · rw [usagePercent_of_inRange inRange positive]
    exact inRange

/-- **The figures are safe to draw**, whatever they are: the percentage is finite, and the
ratio of the gauge is a number between zero and one.  For figures that can be typed in,
what is left is finite as well, and the percentage is not negative. -/
theorem drawable (b : Budget) :
    b.usagePercent.isFinite = true ∧
      b.gaugeRatio ≠ .nan ∧ 0 ≤ b.gaugeRatio ∧ b.gaugeRatio ≤ 1 ∧
        ∀ monthly usage : String, Amount.read monthly = .ok b.monthly →
          Amount.read usage = .ok b.usage → b.remaining.isFinite = true ∧ 0 ≤ b.usagePercent := by
  have share : b.usagePercent / 100 ≠ .nan := by
    obtain ⟨s, r, percent⟩ := eq_finite_of_isFinite (isFinite_usagePercent b)
    rw [percent, hundred_eq, finite_div_finite (by decide)]
    exact ofRank_ne_nan _ _
  have ends : (0 : Binary64) ≤ 1 := by decide +kernel
  obtain ⟨number, low, high⟩ := clamp_bounds ends share
  refine ⟨isFinite_usagePercent b, number, low, high, ?_⟩
  intro monthly usage readMonthly readUsage
  obtain ⟨-, budget⟩ := Amount.read_eq_ok_iff.1 readMonthly
  obtain ⟨-, spent⟩ := Amount.read_eq_ok_iff.1 readUsage
  exact ⟨sub_isFinite budget spent, (isAmount_usagePercent budget spent).zero_le⟩

/-- The amounts of the overflow above, as they are typed in. -/
theorem drawable_after_overflow :
    ∃ monthly usage : Binary64, Amount.read "5e-324" = .ok monthly ∧
      Amount.read "1e308" = .ok usage ∧ ¬ InRange ⟨monthly, usage⟩ ∧
        (remaining ⟨monthly, usage⟩).isFinite = true ∧ 0 ≤ usagePercent ⟨monthly, usage⟩ := by
  have monthly : Amount.read "5e-324" = .ok (.finite false ⟨1, by decide⟩) :=
    Amount.read_eq_ok_iff.2 ⟨by decide +kernel, by decide +kernel⟩
  have usage : Amount.read "1e308" = .ok (.finite false ⟨0x7fe1ccf385ebc8a0, by decide⟩) :=
    Amount.read_eq_ok_iff.2 ⟨by decide +kernel, by decide +kernel⟩
  obtain ⟨-, -, -, -, typed⟩ := drawable
    ⟨.finite false ⟨1, by decide⟩, .finite false ⟨0x7fe1ccf385ebc8a0, by decide⟩⟩
  exact ⟨_, _, monthly, usage, by decide +kernel, typed _ _ monthly usage⟩

end Budget

end Dashboard
