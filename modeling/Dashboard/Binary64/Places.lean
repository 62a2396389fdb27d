import Dashboard.Binary64.Literal

/-!
# Numbers with a fixed count of decimal places

The dashboard prints money and percentages with a fixed number of places.
The exact value of the number is rounded once, at the last place that is
printed, and a tie goes to the even digit there. The sign is printed also
when the digits after it are all zero.

## Main definitions

* `Binary64.toPlaces` — the text of a number with `places` decimals.
-/

namespace Dashboard.Binary64

/-- The digits of a whole number with a point in front of the last `places`
of them, padded with zeros so that at least one digit precedes the point. -/
def pointed (places n : Nat) : List Char :=
  let digits := Digits.ofNat n
  let padded := List.replicate (places + 1 - digits.length) '0' ++ digits
  let cut := padded.length - places
  if places = 0 then padded else padded.take cut ++ '.' :: padded.drop cut

/-- The text of a number with exactly `places` decimals. -/
def toPlaces (places : Nat) : Binary64 → String
  | .nan => "NaN"
  | .infinite s => if s then "-inf" else "inf"
  | .finite s x =>
    let scaled := roundDiv (units x * Nat.pow 10 places) unitsPerOne
    String.ofList ((if s then ['-'] else []) ++ pointed places scaled)

end Dashboard.Binary64
