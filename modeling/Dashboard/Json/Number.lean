import Dashboard.Json.Reader
import Dashboard.Binary64.Shortest

/-!
# Numbers

No document that the dashboard reads holds a number, so numbers are met in
two places only: where one stands instead of something else, and inside a
value that nobody asked for. In the first case its value is shown, and so is
computed.

## How a value is computed

The leading digits are taken as long as they make a number of 64 bits. That
number and the power of ten that belongs to it are each rounded to binary64,
and their product or quotient is rounded again. Digits that were not taken
count only for the power of ten.

## Main definitions

* `Json.Number` — the parts of a written number.
* `Json.number` — the grammar.
* `Json.Number.describe` — the kind and the value, in words.
-/

namespace Dashboard.Json

/-- The parts of a written number, each a list of digits. -/
structure Number where
  negative : Bool
  whole : Bytes
  fraction : Option Bytes
  /-- Sign and digits of the exponent. -/
  exponent : Option (Bool × Bytes)

/-- Whether a byte is a decimal digit. -/
def isDigit (b : UInt8) : Bool := 0x30 ≤ b && b ≤ 0x39

/-- The digits in front. -/
def takeDigits (s : Bytes) : Bytes := s.takeWhile isDigit

/-- What follows the digits in front. -/
def dropDigits (s : Bytes) : Bytes := s.dropWhile isDigit

theorem dropDigits_length (s : Bytes) : (dropDigits s).length ≤ s.length :=
  (List.dropWhile_suffix isDigit).length_le

theorem dropDigits_length_lt_cons (b : UInt8) (s : Bytes) :
    (dropDigits s).length < (b :: s).length := Nat.lt_succ_of_le (dropDigits_length s)

/-! ## The grammar

`atEnd` is the cause to report where the bytes end inside a number.
-/

/-- A minus sign, if there is one. -/
def minus (s : Bytes) : Span s Bool :=
  match s with
  | 0x2D :: r => ⟨true, r, by simp only [List.length_cons]; omega⟩
  | s => ⟨false, s, Nat.le_refl _⟩

/-- The digits in front of the point: a zero alone, or digits that do not
begin with one. -/
def wholeDigits (atEnd : Cause) : Reader Bytes
  | [] => .error (.at atEnd [])
  | b :: r =>
    if b = 0x30 then
      if (takeDigits r).isEmpty then .ok ⟨[b], r, length_lt_cons b r⟩
      else .error (.peek .malformedNumber r)
    else if isDigit b then
      .ok ⟨b :: takeDigits r, dropDigits r, dropDigits_length_lt_cons b r⟩
    else .error (.at .malformedNumber r)

/-- A point and the digits after it, if there is a point; then at least one
digit must follow. -/
def fractionDigits (atEnd : Cause) (s : Bytes) : Except Failure (Span s (Option Bytes)) :=
  match s with
  | 0x2E :: r =>
    if (takeDigits r).isEmpty then
      .error (.peek (if r.isEmpty then atEnd else .malformedNumber) r)
    else .ok ⟨some (takeDigits r), dropDigits r, by
      have := dropDigits_length r
      simp only [List.length_cons]; omega⟩
  | s => .ok ⟨none, s, Nat.le_refl _⟩

/-- A sign in front of the digits of an exponent. -/
def exponentSign (s : Bytes) : Span s Bool :=
  match s with
  | 0x2B :: r => ⟨false, r, by simp only [List.length_cons]; omega⟩
  | 0x2D :: r => ⟨true, r, by simp only [List.length_cons]; omega⟩
  | s => ⟨false, s, Nat.le_refl _⟩

/-- A letter `e`, a sign and digits, if there is the letter; then at least
one digit must follow. -/
def exponentDigits (atEnd : Cause) (s : Bytes) :
    Except Failure (Span s (Option (Bool × Bytes))) :=
  match s with
  | [] => .ok ⟨none, [], Nat.le_refl _⟩
  | b :: r =>
    if b = 0x65 ∨ b = 0x45 then
      let ⟨negative, t, h⟩ := exponentSign r
      match t with
      | [] => .error (.at atEnd [])
      | d :: t =>
        if isDigit d then .ok ⟨some (negative, d :: takeDigits t), dropDigits t, by
          have := dropDigits_length t
          simp only [List.length_cons] at h ⊢; omega⟩
        else .error (.at .malformedNumber t)
    else .ok ⟨none, b :: r, Nat.le_refl _⟩

/-- Reads a number. -/
def number (atEnd : Cause) : Reader Number := fun s => do
  let ⟨negative, r, h1⟩ := minus s
  let ⟨whole, r, h2⟩ ← wholeDigits atEnd r
  let ⟨fraction, r, h3⟩ ← fractionDigits atEnd r
  let ⟨exponent, r, h4⟩ ← exponentDigits atEnd r
  .ok ⟨⟨negative, whole, fraction, exponent⟩, r, by omega⟩

/-! ## The value -/

/-- Digits taken behind those of `n` as long as the number they make stays
below `limit`: that number, and the digits not taken. -/
def takeBelow (limit n : Nat) : Bytes → Nat × Bytes
  | [] => (n, [])
  | d :: ds =>
    let m := 10 * n + (d.toNat - 0x30)
    if m < limit then takeBelow limit m ds else (n, d :: ds)

/-- The binary64 number nearest to a power of ten. -/
def powerOfTen (exponent : Nat) : Binary64 := Literal.ofDecimal false 1 exponent

/-- A number times a power of ten, unless it becomes infinite. Powers beyond
the greatest finite one are applied in steps. -/
def scale (x : Binary64) (exponent : Int) : Option Binary64 :=
  if h : exponent.natAbs ≤ 308 then
    if 0 ≤ exponent then
      let y := x * powerOfTen exponent.natAbs
      if y.isFinite then some y else none
    else some (x / powerOfTen exponent.natAbs)
  else if x = Binary64.zero false then some x
  else if 0 ≤ exponent then none
  else scale (x / powerOfTen 308) (exponent + 308)
termination_by exponent.natAbs

/-- What the digits of a number say: a whole number of 64 bits, or a number
times a power of ten. -/
structure Significand where
  digits : Nat
  exponent : Int
  /-- Whether the number has neither point nor exponent and fits 64 bits. -/
  isWhole : Bool

/-- The leading digits of a number that fit 64 bits, and the power of ten
that belongs to them. -/
def Number.significand (n : Number) : Significand :=
  let (whole, dropped) := takeBelow (Nat.pow 2 64) 0 n.whole
  let fraction := n.fraction.getD []
  let (digits, unused) := takeBelow (Nat.pow 2 64) whole fraction
  ⟨digits, (dropped.length : Int) - (fraction.length - unused.length : Nat),
    dropped.isEmpty && n.fraction.isNone && n.exponent.isNone⟩

/-- The kind and value of a binary64 number, in words. -/
def describeBinary64 (negative : Bool) (x : Binary64) : String :=
  "floating point `" ++ (if negative then -x else x).toShortest ++ "`"

/--
The kind and the value of a number, in words; `rest` is what follows it.

An exponent that does not fit 31 bits decides at the first digit that does
not fit: the number is too large there, or it is zero.
-/
def Number.describe (n : Number) (rest : Bytes) : Except Failure String :=
  let s := n.significand
  if s.isWhole then
    if !n.negative then .ok ("integer `" ++ toString s.digits ++ "`")
    else if 0 < s.digits ∧ s.digits ≤ Nat.pow 2 63 then
      .ok ("integer `-" ++ toString s.digits ++ "`")
    else .ok (describeBinary64 true (Binary64.ofNat s.digits))
  else
    let (negativeExponent, digits) := n.exponent.getD (false, [])
    match takeBelow (Nat.pow 2 31) 0 digits with
    | (_, _ :: unread) =>
      if s.digits ≠ 0 ∧ !negativeExponent then
        .error ⟨.numberTooLarge, rest.length + unread.length, 0⟩
      else .ok (describeBinary64 n.negative (Binary64.zero false))
    | (exponent, []) =>
      match scale (Binary64.ofNat s.digits)
          (s.exponent + Digits.signed negativeExponent exponent) with
      | some x => .ok (describeBinary64 n.negative x)
      | none => .error (.at .numberTooLarge rest)

end Dashboard.Json
