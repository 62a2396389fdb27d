import Dashboard.Amount
import Dashboard.Proofs.Binary64.Rounding

/-!
# Binary64 numbers by rank

A number that is not negative is known by its rank, where infinity has the rank after
the last finite one, and so the order of such numbers is the order of their ranks.  An
operation is then one rounding to a rank, with no case for an overflow.

Amounts are the numbers that can be typed in: finite and not negative.  A negative zero
is an amount, and it stands where the positive zero does.

## Main definitions

* `ofRank` — the number of a sign and a rank, which may be too large.
* `rank` — the rank of a number.
* `IsAmount` — finite and not negative.

## Main results

* `le_iff_rank_le` — amounts are compared by their ranks.
* `finite_div_finite`, `ofRank_mul_finite` — division and multiplication by rank.
* `sub_isFinite`, `clamp_bounds` — differences of amounts, and numbers in a range.
* `Amount.read_eq_ok_iff` — what can be typed in.
-/

namespace Dashboard

namespace Binary64

/-! ## Ranks -/

/-- The number of a sign and a rank; a rank that no finite number has is infinite. -/
def ofRank (negative : Bool) (rank : Nat) : Binary64 :=
  if h : rank < rankLimit then .finite negative ⟨rank, h⟩ else .infinite negative

theorem ofMagnitude_eq (negative : Bool) (num den : Nat) :
    ofMagnitude negative num den = ofRank negative (nearestRank num den) := rfl

theorem isFinite_ofRank {negative : Bool} {rank : Nat} :
    (ofRank negative rank).isFinite = true ↔ rank < rankLimit := by
  unfold ofRank
  split_ifs with small
  · exact iff_of_true rfl small
  · exact iff_of_false nofun small

theorem ofRank_ne_nan (negative : Bool) (rank : Nat) : ofRank negative rank ≠ .nan := by
  unfold ofRank
  split_ifs <;> nofun

theorem eq_finite_of_isFinite {x : Binary64} (finite : x.isFinite = true) :
    ∃ s r, x = .finite s r := by
  cases x with
  | nan | infinite s => cases finite
  | finite s r => exact ⟨s, r, rfl⟩

/-- The rank of a number, whatever its sign. -/
def rank : Binary64 → Nat
  | .nan => 0
  | .infinite _ => rankLimit
  | .finite _ x => x

/-! ## Order -/

theorem le_iff {x y : Binary64} :
    x ≤ y ↔ ∃ a b, x.position = some a ∧ y.position = some b ∧ a ≤ b := by
  show x.le y = true ↔ _
  unfold le
  cases x.position <;> cases y.position <;> simp

theorem lt_iff {x y : Binary64} :
    x < y ↔ ∃ a b, x.position = some a ∧ y.position = some b ∧ a < b := by
  show x.lt y = true ↔ _
  unfold lt
  cases x.position <;> cases y.position <;> simp

theorem le_trans {x y z : Binary64} (first : x ≤ y) (second : y ≤ z) : x ≤ z := by
  obtain ⟨a, b, hx, hy, ab⟩ := le_iff.1 first
  obtain ⟨b', c, hy', hz, bc⟩ := le_iff.1 second
  obtain rfl : b = b' := Option.some.inj (hy.symm.trans hy')
  exact le_iff.2 ⟨a, c, hx, hz, ab.trans bc⟩

theorem exists_position {x : Binary64} (number : x ≠ .nan) : ∃ a, x.position = some a := by
  cases x with
  | nan => exact absurd rfl number
  | infinite s => exact ⟨_, rfl⟩
  | finite s r => exact ⟨_, rfl⟩

theorem le_of_not_lt {x y : Binary64} (hx : x ≠ .nan) (hy : y ≠ .nan) (notLess : ¬ x < y) :
    y ≤ x := by
  obtain ⟨a, ha⟩ := exists_position hx
  obtain ⟨b, hb⟩ := exists_position hy
  refine le_iff.2 ⟨b, a, hb, ha, ?_⟩
  by_contra less
  exact notLess (lt_iff.2 ⟨a, b, ha, hb, by omega⟩)

theorem not_le_of_lt {x y : Binary64} (less : x < y) : ¬ y ≤ x := by
  obtain ⟨a, b, ha, hb, ab⟩ := lt_iff.1 less
  intro notLess
  obtain ⟨b', a', hb', ha', ba⟩ := le_iff.1 notLess
  obtain rfl : a = a' := Option.some.inj (ha.symm.trans ha')
  obtain rfl : b = b' := Option.some.inj (hb.symm.trans hb')
  omega

/-- **A number in a range.**  What is not a number stays as it is, and all else is brought
between the ends. -/
theorem clamp_bounds {low high x : Binary64} (ends : low ≤ high) (number : x ≠ .nan) :
    clamp low high x ≠ .nan ∧ low ≤ clamp low high x ∧ clamp low high x ≤ high := by
  have lowNumber : low ≠ .nan := by
    rintro rfl
    obtain ⟨_, _, none, _⟩ := le_iff.1 ends
    cases none
  have highNumber : high ≠ .nan := by
    rintro rfl
    obtain ⟨_, _, _, none, _⟩ := le_iff.1 ends
    cases none
  have refl {y : Binary64} (hy : y ≠ .nan) : y ≤ y := by
    obtain ⟨a, ha⟩ := exists_position hy
    exact le_iff.2 ⟨a, a, ha, ha, le_rfl⟩
  unfold clamp
  split_ifs with below above
  · exact ⟨lowNumber, refl lowNumber, ends⟩
  · exact ⟨highNumber, ends, refl highNumber⟩
  · exact ⟨number, le_of_not_lt number lowNumber below, le_of_not_lt highNumber number above⟩

/-! ## Amounts -/

/-- A number that can be typed in as an amount. -/
def IsAmount (x : Binary64) : Prop := x.isFinite = true ∧ ¬ x < 0

instance (x : Binary64) : Decidable x.IsAmount :=
  inferInstanceAs (Decidable (x.isFinite = true ∧ ¬ x < 0))

theorem position_zero : (0 : Binary64).position = some 0 := by decide +kernel

theorem isAmount_zero : (0 : Binary64).IsAmount := by decide +kernel

/-- An amount has a sign only if it is zero. -/
theorem isAmount_iff {x : Binary64} :
    x.IsAmount ↔ ∃ s r, x = .finite s r ∧ (s = true → r.val = 0) := by
  unfold IsAmount
  rw [lt_iff, position_zero]
  cases x with
  | nan | infinite s => simp [isFinite]
  | finite s r => cases s <;> simp [isFinite, position]

theorem IsAmount.position_eq {x : Binary64} (amount : x.IsAmount) :
    x.position = some (x.rank : Int) := by
  obtain ⟨s, r, rfl, unsigned⟩ := isAmount_iff.1 amount
  cases s with
  | false => rfl
  | true =>
      have zero : r.val = 0 := unsigned rfl
      simp [position, rank, zero]

/-- **Amounts are compared by their ranks.** -/
theorem le_iff_rank_le {x y : Binary64} (hx : x.IsAmount) (hy : y.IsAmount) :
    x ≤ y ↔ x.rank ≤ y.rank := by
  rw [le_iff, hx.position_eq, hy.position_eq]
  simp

theorem IsAmount.zero_le {x : Binary64} (amount : x.IsAmount) : 0 ≤ x := by
  have number : x ≠ .nan := by
    intro isNan
    rw [isNan] at amount
    exact absurd amount.1 (by decide)
  exact le_of_not_lt number (by decide +kernel) amount.2

/-- An amount that is not zero has no sign. -/
theorem IsAmount.exists_rank {x : Binary64} (amount : x.IsAmount) (positive : ¬ x ≤ 0) :
    ∃ r : Fin rankLimit, r.val ≠ 0 ∧ x = .finite false r := by
  obtain ⟨s, r, rfl, unsigned⟩ := isAmount_iff.1 amount
  have nonzero : r.val ≠ 0 := by
    intro zero
    refine positive (le_iff.2 ⟨0, 0, ?_, position_zero, le_rfl⟩)
    rw [amount.position_eq]
    simp [rank, zero]
  cases s with
  | false => exact ⟨r, nonzero, rfl⟩
  | true => exact absurd (unsigned rfl) nonzero

theorem isAmount_ofRank {s : Bool} {q : Nat} (small : q < rankLimit) (unsigned : s = true → q = 0) :
    (ofRank s q).IsAmount ∧ (ofRank s q).rank = q := by
  have finite : ofRank s q = .finite s ⟨q, small⟩ := dif_pos small
  rw [finite]
  exact ⟨isAmount_iff.2 ⟨s, ⟨q, small⟩, rfl, unsigned⟩, rfl⟩

/-! ## Operations -/

theorem unitsPerOne_pos : 0 < unitsPerOne := by decide +kernel

section Operations

variable {s t : Bool} {x y : Fin rankLimit}

/-- **A quotient is rounded once.** -/
theorem finite_div_finite (nonzero : y.val ≠ 0) :
    Binary64.finite s x / .finite t y =
      ofRank (s ^^ t) (nearestRank (units x * unitsPerOne) (units y)) := by
  show (if y.val = 0 then _ else ofMagnitude (s ^^ t) _ _) = _
  rw [if_neg nonzero, ofMagnitude_eq]

/-- **A product is rounded once**, and what is too large stays too large when it is
multiplied by one or more. -/
theorem ofRank_mul_finite (q : Nat) (large : unitsPerOne ≤ units y) :
    ofRank s q * .finite t y = ofRank (s ^^ t) (nearestRank (units q * units y) unitsPerOne) := by
  by_cases small : q < rankLimit
  · have finite : ofRank s q = .finite s ⟨q, small⟩ := dif_pos small
    rw [finite]
    exact ofMagnitude_eq _ _ _
  · have infinite : ofRank s q = .infinite s := dif_neg small
    have nonzero : y.val ≠ 0 := by
      intro zero
      rw [zero, units_zero] at large
      exact absurd large (Nat.not_le.2 unitsPerOne_pos)
    have grows : q ≤ nearestRank (units q * units y) unitsPerOne := by
      have product := nearestRank_mono unitsPerOne_pos unitsPerOne_pos
        (Nat.mul_le_mul_right unitsPerOne (Nat.mul_le_mul_left (units q) large))
      rwa [nearestRank_units unitsPerOne_pos q] at product
    have beyond : ¬ nearestRank (units q * units y) unitsPerOne < rankLimit := by omega
    rw [infinite, ofRank, dif_neg beyond]
    show (if y.val = 0 then _ else Binary64.infinite (s ^^ t)) = _
    rw [if_neg nonzero]

end Operations

/-- **The difference of amounts is finite**: it is not larger than the larger one. -/
theorem sub_isFinite {x y : Binary64} (hx : x.IsAmount) (hy : y.IsAmount) :
    (x - y).isFinite = true := by
  have signedUnits_eq {s : Bool} {r : Fin rankLimit} (unsigned : s = true → r.val = 0) :
      signedUnits s r = units r := by
    cases s with
    | false => rfl
    | true => simp [signedUnits, unsigned rfl, units_zero]
  obtain ⟨s, r, rfl, unsigned⟩ := isAmount_iff.1 hx
  obtain ⟨t, u, rfl, unsigned'⟩ := isAmount_iff.1 hy
  show (if signedUnits s r - signedUnits t u = 0 then zero (s && !t)
    else ofMagnitude _ (signedUnits s r - signedUnits t u).natAbs 1).isFinite = true
  rw [signedUnits_eq unsigned, signedUnits_eq unsigned']
  split_ifs with equal
  · rfl
  · rw [ofMagnitude_eq, isFinite_ofRank]
    have left : units r ≤ units (max r.val u.val) := units_strictMono.monotone (by omega)
    have right : units u ≤ units (max r.val u.val) := units_strictMono.monotone (by omega)
    calc nearestRank ((units r : Int) - units u).natAbs 1
        ≤ nearestRank (units (max r.val u.val) * 1) 1 :=
          nearestRank_mono Nat.one_pos Nat.one_pos (by omega)
      _ = max r.val u.val := nearestRank_units Nat.one_pos _
      _ < rankLimit := max_lt r.isLt u.isLt

end Binary64

/-! ## What can be typed in -/

/-- **A text is read as an amount** just if it is a literal for one. -/
theorem Amount.read_eq_ok_iff {text : String} {x : Binary64} :
    Amount.read text = .ok x ↔ Binary64.read? text = some x ∧ x.IsAmount := by
  have nothing : Binary64.read? "" = none := by decide +kernel
  unfold Amount.read
  split_ifs with empty
  · rw [empty, nothing]
    simp
  · cases Binary64.read? text with
    | none => simp
    | some number =>
        dsimp only
        have refused : ((!number.isFinite) = true ∨ number < 0) ↔ ¬ number.IsAmount := by
          unfold Binary64.IsAmount
          cases number.isFinite <;> simp
        by_cases amount : number.IsAmount
        · rw [if_neg (mt refused.1 (not_not.2 amount)), Except.ok.injEq, Option.some.injEq]
          refine iff_self_and.2 ?_
          rintro rfl
          exact amount
        · rw [if_pos (refused.2 amount)]
          refine iff_of_false nofun ?_
          rintro ⟨read, isAmount⟩
          exact amount (Option.some.inj read ▸ isAmount)

end Dashboard
