import Dashboard.Binary64.Literal

/-!
# The shortest decimal of a number

The shortest decimal that rounds back to a binary64 number, and the text it
is shown as. The reals that round to a rank form an interval around its
value; of all decimals inside it the one with the fewest digits is taken,
and of two with equally many the nearer.

## Why two candidates per length suffice

If any point of a decimal grid lies in the interval, so does one of the two
neighbours of the value on that grid. `Shortest.digits?` therefore tries the
neighbours below and above on the grids of 1, 2, …, 17 digits, in exact
arithmetic, and the first grid with a hit decides.

## Main definitions

* `Shortest.decimal` — digits and exponent of the shortest decimal.
* `Binary64.toShortest` — the text: positional for exponents from `-5` to
  `15`, scientific outside.
-/

namespace Dashboard

namespace Shortest

open Binary64

/-! ## The interval of a rank

Bounds are kept in half units, in which the midpoints between neighbouring
ranks are whole numbers.
-/

/-- Twice the value of a rank, in units. -/
def doubled (rank : Nat) : Nat := 2 * units rank

/-- Half units per one. -/
def halvesPerOne : Nat := 2 * unitsPerOne

/-- Whether `num / den` half units round to `rank`. The ends of the interval
belong to it exactly when the rank is even. -/
def roundsTo (rank num den : Nat) : Bool :=
  let low := (units (rank - 1) + units rank) * den
  let high := (units rank + units (rank + 1)) * den
  if rank % 2 = 0 then decide (low ≤ num ∧ num ≤ high) else decide (low < num ∧ num < high)

/-! ## Candidates -/

/-- A power of ten as a quotient. -/
def powerOfTen : Int → Nat × Nat
  | .ofNat e => (Nat.pow 10 e, 1)
  | .negSucc e => (1, Nat.pow 10 (e + 1))

/-- The exponent of the leading decimal digit of a positive rank: the digits
are counted after a scaling by `10 ^ 400`, which makes even the least
positive value larger than one. -/
def leadingExponent (rank : Nat) : Int :=
  ((Digits.ofNat (units rank * Nat.pow 10 400 / unitsPerOne)).length : Int) - 401

/-- The hit on the grid of `count` digits that is nearest to the value, if
there is one, with the exponent of its last digit. -/
def candidate? (rank count : Nat) : Option (Nat × Int) :=
  let exponent := leadingExponent rank + 1 - count
  let (num, den) := powerOfTen exponent
  let step := num * halvesPerOne
  let value := doubled rank * den
  let down := value / step
  let hitDown := down ≠ 0 && roundsTo rank (down * step) den
  let hitUp := roundsTo rank ((down + 1) * step) den
  let upNearer := decide (step < 2 * (value % step)) ||
    (decide (2 * (value % step) = step) && down % 2 == 1)
  if hitDown && !(hitUp && upNearer) then some (down, exponent)
  else if hitUp then some (down + 1, exponent)
  else none

/-- Digits without the zeros at their end, and the exponent that makes up
for the zeros dropped; `fuel` bounds how many may go. -/
def strip : Nat → Nat → Int → Nat × Int
  | 0, digits, exponent => (digits, exponent)
  | fuel + 1, digits, exponent =>
    if digits % 10 = 0 ∧ digits ≠ 0 then strip fuel (digits / 10) (exponent + 1)
    else (digits, exponent)

/-- The shortest decimal of a positive rank, as digits and the exponent of
the last of them. Seventeen digits always suffice. -/
def decimal (rank : Nat) : Nat × Int :=
  match (List.range 17).findSome? (fun i => candidate? rank (i + 1)) with
  | some (digits, exponent) => strip 17 digits exponent
  | none => (units rank, 0)

/-! ## The text -/

/-- Positional notation of digits whose leading digit stands at exponent
`leading`, with at least one digit on each side of the point. -/
def positional (digits : List Char) (leading : Int) : List Char :=
  match leading with
  | .ofNat e =>
    let whole := digits.take (e + 1)
    let fraction := digits.drop (e + 1)
    whole ++ List.replicate (e + 1 - digits.length) '0' ++ '.' ::
      (if fraction = [] then ['0'] else fraction)
  | .negSucc e => "0.".toList ++ List.replicate e '0' ++ digits

/-- Scientific notation: one digit, the others after a point if there are
any, and a signed exponent. -/
def scientific (digits : List Char) (leading : Int) : List Char :=
  let mantissa := match digits with
    | first :: second :: rest => first :: '.' :: second :: rest
    | short => short
  mantissa ++ 'e' :: (if leading < 0 then '-' else '+') :: Digits.ofNat leading.natAbs

/-- The text of a rank. -/
def text (rank : Nat) : List Char :=
  if rank = 0 then "0.0".toList
  else
    let (digits, exponent) := decimal rank
    let written := Digits.ofNat digits
    let leading := exponent + written.length - 1
    if -5 ≤ leading ∧ leading < 16 then positional written leading else scientific written leading

end Shortest

namespace Binary64

/-- The shortest text that rounds back to the number. -/
def toShortest : Binary64 → String
  | .nan => "NaN"
  | .infinite s => if s then "-inf" else "inf"
  | .finite s x => String.ofList ((if s then ['-'] else []) ++ Shortest.text x)

end Binary64

end Dashboard
