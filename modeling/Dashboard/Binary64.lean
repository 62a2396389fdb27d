/-!
# Binary64 numbers, exactly

Money and percentages on the dashboard are IEEE 754 binary64 numbers. They
are modelled here over `Nat`, so that every operation is an exact
computation followed by one rounding, and so that all of it reduces inside
the logic.

## The representation the module rests on

The finite non-negative values, listed in increasing order, are numbered by
their **rank**: zero has rank `0`, the least positive value `2 ^ -1074` has
rank `1`, and infinity would have rank `rankLimit`. The rank is also the low
63 bits of the interchange format, and comparing ranks compares values.

Every finite value is a whole number of **units** of `2 ^ -1074`, given by
`units`. A magnitude that is not representable is handed over as an exact
quotient of units, and `nearestRank` finds the rank it rounds to.

## Main definitions

* `Binary64` — not-a-number, a signed infinity, or a sign and a rank.
* `nearestRank` — rounding to nearest, ties to the even rank.
* `sub`, `mul`, `div`, `lt`, `le` — the operations the dashboard needs.
* `bits` — the interchange format.
-/

namespace Dashboard

namespace Binary64

/-! ## Ranks and units -/

/-- The number of ranks, which is the rank infinity would have. -/
def rankLimit : Nat := 2047 * Nat.pow 2 52

/-- How many units make one. -/
def unitsPerOne : Nat := Nat.pow 2 1074

/--
The value of a rank, in units of `2 ^ -1074`.

The low 52 bits of a rank are the fraction and the bits above them the
exponent field. The field `0` holds the subnormal values and every other
field a leading one.
-/
def units (rank : Nat) : Nat :=
  if rank / Nat.pow 2 52 = 0 then rank % Nat.pow 2 52
  else (Nat.pow 2 52 + rank % Nat.pow 2 52) * Nat.pow 2 (rank / Nat.pow 2 52 - 1)

/-- Division to the nearest whole number; a tie goes to the even one. -/
def roundDiv (num den : Nat) : Nat :=
  let down := num / den
  let rest := num % den
  if den < 2 * rest ∨ (2 * rest = den ∧ down % 2 = 1) then down + 1 else down

/--
The rank nearest to `num / den` units, ties to the even rank.

All but the leading 53 bits of the quotient are dropped by scaling the
divisor up. When rounding carries into a new leading bit the sum still
names the right rank, because ranks are consecutive across exponents.
-/
def nearestRank (num den : Nat) : Nat :=
  let shift := (num / den).log2 - 52
  shift * Nat.pow 2 52 + roundDiv num (den * Nat.pow 2 shift)

end Binary64

/-- A binary64 number. Not-a-number carries no payload. -/
inductive Binary64 where
  | nan
  | infinite (negative : Bool)
  | finite (negative : Bool) (rank : Fin Binary64.rankLimit)
  deriving DecidableEq

namespace Binary64

/-! ## Rounding into the type -/

/-- The signed value nearest to `num / den` units; a magnitude that rounds
past the largest finite value is infinite. -/
def ofMagnitude (negative : Bool) (num den : Nat) : Binary64 :=
  let rank := nearestRank num den
  if h : rank < rankLimit then .finite negative ⟨rank, h⟩ else .infinite negative

/-- The zero of the given sign. -/
def zero (negative : Bool) : Binary64 := .finite negative ⟨0, by decide⟩

/-- The value nearest to a whole number. -/
def ofNat (n : Nat) : Binary64 := ofMagnitude false (n * unitsPerOne) 1

instance (n : Nat) : OfNat Binary64 n := ⟨ofNat n⟩

instance : Inhabited Binary64 := ⟨zero false⟩

/-- Whether the number is neither infinite nor not-a-number. -/
def isFinite : Binary64 → Bool
  | .finite .. => true
  | _ => false

/-! ## Arithmetic -/

/-- A signed number of units. -/
def signedUnits (negative : Bool) (rank : Nat) : Int :=
  if negative then -(units rank : Int) else units rank

/-- The opposite number. -/
def neg : Binary64 → Binary64
  | .nan => .nan
  | .infinite s => .infinite (!s)
  | .finite s x => .finite (!s) x

/-- Subtraction, rounded once. An exact difference of zero is positive
unless it is the difference of a negative and a positive zero. -/
def sub : Binary64 → Binary64 → Binary64
  | .nan, _ | _, .nan => .nan
  | .infinite s, .infinite t => if s = t then .nan else .infinite s
  | .infinite s, .finite .. => .infinite s
  | .finite .., .infinite t => .infinite (!t)
  | .finite s x, .finite t y =>
    let difference := signedUnits s x - signedUnits t y
    if difference = 0 then zero (s && !t)
    else ofMagnitude (decide (difference < 0)) difference.natAbs 1

/-- Multiplication, rounded once. -/
def mul : Binary64 → Binary64 → Binary64
  | .nan, _ | _, .nan => .nan
  | .infinite s, .infinite t => .infinite (s ^^ t)
  | .infinite s, .finite t y => if y.val = 0 then .nan else .infinite (s ^^ t)
  | .finite s x, .infinite t => if x.val = 0 then .nan else .infinite (s ^^ t)
  | .finite s x, .finite t y => ofMagnitude (s ^^ t) (units x * units y) unitsPerOne

/-- Division, rounded once. -/
def div : Binary64 → Binary64 → Binary64
  | .nan, _ | _, .nan => .nan
  | .infinite _, .infinite _ => .nan
  | .infinite s, .finite t _ => .infinite (s ^^ t)
  | .finite s _, .infinite t => zero (s ^^ t)
  | .finite s x, .finite t y =>
    if y.val = 0 then (if x.val = 0 then .nan else .infinite (s ^^ t))
    else ofMagnitude (s ^^ t) (units x * unitsPerOne) (units y)

instance : Neg Binary64 := ⟨neg⟩
instance : Sub Binary64 := ⟨sub⟩
instance : Mul Binary64 := ⟨mul⟩
instance : Div Binary64 := ⟨div⟩

/-! ## Order -/

/-- The position of a number on the line of ranks, if it has one. The two
zeros share a position. -/
def position : Binary64 → Option Int
  | .nan => none
  | .infinite s => some (if s then -(rankLimit : Int) else rankLimit)
  | .finite s x => some (if s then -(x.val : Int) else x.val)

/-- Strict comparison; false as soon as one side is not a number. -/
def lt (x y : Binary64) : Bool :=
  match x.position, y.position with
  | some a, some b => decide (a < b)
  | _, _ => false

/-- Comparison; false as soon as one side is not a number. -/
def le (x y : Binary64) : Bool :=
  match x.position, y.position with
  | some a, some b => decide (a ≤ b)
  | _, _ => false

instance : LT Binary64 := ⟨fun x y => x.lt y = true⟩
instance : LE Binary64 := ⟨fun x y => x.le y = true⟩
instance (x y : Binary64) : Decidable (x < y) := inferInstanceAs (Decidable (x.lt y = true))
instance (x y : Binary64) : Decidable (x ≤ y) := inferInstanceAs (Decidable (x.le y = true))

/-- The number brought into the range from `low` to `high`. Not-a-number
is in no range and stays as it is. -/
def clamp (low high x : Binary64) : Binary64 :=
  if x < low then low else if high < x then high else x

/-! ## The interchange format -/

/-- The 64 bits of a number, as a natural number. -/
def bits : Binary64 → Nat
  | .nan => rankLimit + Nat.pow 2 51
  | .infinite s => (if s then Nat.pow 2 63 else 0) + rankLimit
  | .finite s x => (if s then Nat.pow 2 63 else 0) + x.val

end Binary64

end Dashboard
