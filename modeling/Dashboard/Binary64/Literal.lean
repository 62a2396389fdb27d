import Dashboard.Binary64

/-!
# Decimal literals

The text of a number as a person types it: an optional sign, digits with an
optional point, an optional exponent; or a word for infinity or for
not-a-number. A literal is read into what it denotes exactly, and only then
rounded to binary64.

## Main definitions

* `Literal` — what a text denotes before rounding.
* `Literal.read?` — the grammar.
* `Literal.round` — the nearest binary64 number.
-/

namespace Dashboard

/-! ## Digits -/

namespace Digits

/-- The number written by a list of decimal digits, in front of which the
number `start` has been written already. -/
def valueFrom (start : Nat) (digits : List Char) : Nat :=
  digits.foldl (fun n c => 10 * n + (c.toNat - '0'.toNat)) start

/-- The number written by a list of decimal digits; no digits write zero. -/
def value (digits : List Char) : Nat := valueFrom 0 digits

/-- The decimal digits of a number; zero has the one digit `0`. -/
def ofNat (n : Nat) : List Char := Nat.toDigits 10 n

/-- A sign in front of a text, and the text without it. A text without a
sign is positive. -/
def splitSign : List Char → Bool × List Char
  | '-' :: rest => (true, rest)
  | '+' :: rest => (false, rest)
  | text => (false, text)

/-- An integer from its sign and its magnitude. -/
def signed (negative : Bool) (magnitude : Nat) : Int :=
  if negative then -(magnitude : Int) else magnitude

end Digits

/-! ## The grammar -/

/-- What a literal denotes: `±digits × 10 ^ exponent`, an infinity, or
not-a-number. -/
inductive Literal where
  | decimal (negative : Bool) (digits : Nat) (exponent : Int)
  | infinity (negative : Bool)
  | nan
  deriving DecidableEq

namespace Literal

/-- The exponent after the digits: nothing at all, or a letter `e`, an
optional sign and at least one digit. -/
def exponent? : List Char → Option Int
  | [] => some 0
  | c :: rest =>
    let (negative, digits) := Digits.splitSign rest
    if (c = 'e' ∨ c = 'E') ∧ digits ≠ [] ∧ digits.all Char.isDigit then
      some (Digits.signed negative (Digits.value digits))
    else none

/-- The text after the whole digits, split at its point: the digits of the
fraction and what follows them. -/
def splitFraction : List Char → List Char × List Char
  | '.' :: rest => (rest.takeWhile Char.isDigit, rest.dropWhile Char.isDigit)
  | text => ([], text)

/-- An unsigned decimal: digits with an optional point and at least one
digit on one side of it, then an exponent. -/
def decimal? (negative : Bool) (text : List Char) : Option Literal :=
  let whole := text.takeWhile Char.isDigit
  let (fraction, rest) := splitFraction (text.dropWhile Char.isDigit)
  if whole = [] ∧ fraction = [] then none
  else (exponent? rest).map fun exponent =>
    .decimal negative (Digits.value (whole ++ fraction)) (exponent - fraction.length)

/-- An unsigned word, in letters of either case. -/
def word? (negative : Bool) (text : List Char) : Option Literal :=
  let word := text.map Char.toLower
  if word = "inf".toList ∨ word = "infinity".toList then some (.infinity negative)
  else if word = "nan".toList then some .nan
  else none

/-- The literal written by a text, if the text is one. Nothing may stand
before or after it. -/
def read? (text : List Char) : Option Literal :=
  let (negative, unsigned) := Digits.splitSign text
  (decimal? negative unsigned).or (word? negative unsigned)

/-! ## Rounding -/

/--
The binary64 number nearest to `±digits × 10 ^ exponent`.

A magnitude of at least `10 ^ 309` exceeds every finite value and one below
`10 ^ -330` is less than half of the least positive value, so the powers of
ten that are computed stay small whatever the exponent is.
-/
def ofDecimal (negative : Bool) (digits : Nat) (exponent : Int) : Binary64 :=
  let magnitude := (Digits.ofNat digits).length + exponent
  if digits = 0 ∨ magnitude ≤ -330 then Binary64.zero negative
  else if 310 ≤ magnitude then .infinite negative
  else match exponent with
    | .ofNat e => Binary64.ofMagnitude negative (digits * Nat.pow 10 e * Binary64.unitsPerOne) 1
    | .negSucc e =>
      Binary64.ofMagnitude negative (digits * Binary64.unitsPerOne) (Nat.pow 10 (e + 1))

/-- The nearest binary64 number, ties to even. -/
def round : Literal → Binary64
  | .decimal negative digits exponent => ofDecimal negative digits exponent
  | .infinity negative => .infinite negative
  | .nan => .nan

end Literal

namespace Binary64

/-- The number written by a text, if the text is a literal. -/
def read? (text : String) : Option Binary64 := (Literal.read? text.toList).map Literal.round

end Binary64

end Dashboard
