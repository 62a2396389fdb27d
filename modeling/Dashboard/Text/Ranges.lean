/-!
# Ranges of code points

A property of characters is written down as the ranges of code points that
have it, in increasing order and each with both of its ends.

## Main definitions

* `Ranges`, `Ranges.has` — a property, and whether a character has it.
-/

namespace Dashboard.Text

/-- Ranges of code points, from the first to the last of each. -/
abbrev Ranges := Array (Nat × Nat)

/-- Whether the code point of a character lies in one of the ranges. -/
def Ranges.has (ranges : Ranges) (c : Char) : Bool :=
  ranges.any fun range => range.1 ≤ c.toNat && c.toNat ≤ range.2

end Dashboard.Text
