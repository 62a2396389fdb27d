import Dashboard.Json.Failure

/-!
# Readers

A reader takes a value off the front of the bytes. It either fails or gives
the value together with the bytes after it. That fewer bytes are left is
part of what it gives, so loops over members and elements end by the length
of their input.

## Main definitions

* `Json.Step`, `Json.Span` — a value and the bytes after it.
* `Json.Reader` — a function that gives a `Step` or a `Failure`.
* `Json.skipBlank` — insignificant blanks.
* `Json.word` — the words `null`, `true` and `false`.
-/

namespace Dashboard.Json

/-! ## Values and what is left -/

/-- A value read off `input`, and the bytes after it, of which there are
fewer. -/
structure Step (input : Bytes) (α : Type) where
  value : α
  rest : Bytes
  shorter : rest.length < input.length

/-- A value read off `input`, perhaps from no bytes at all, and the bytes
after it. -/
structure Span (input : Bytes) (α : Type) where
  value : α
  rest : Bytes
  notLonger : rest.length ≤ input.length

/-- A way to read a value off the front of any bytes. -/
abbrev Reader (α : Type) := (input : Bytes) → Except Failure (Step input α)

/-- The same step with another value. -/
def Step.map {α β : Type} {input : Bytes} (f : α → β) (s : Step input α) : Step input β :=
  ⟨f s.value, s.rest, s.shorter⟩

/-- A step seen from bytes further in front. -/
def Step.from {α : Type} {input : Bytes} (outer : Bytes) (h : input.length ≤ outer.length)
    (s : Step input α) : Step outer α :=
  ⟨s.value, s.rest, Nat.lt_of_lt_of_le s.shorter h⟩

/-- A step and then another one from where it ended. -/
def Step.then {α β : Type} {input : Bytes} (s : Step input α) (t : Step s.rest β) : Step input β :=
  ⟨t.value, t.rest, Nat.lt_trans t.shorter s.shorter⟩

/-- The same reader with another value. -/
def Reader.map {α β : Type} (f : α → β) (read : Reader α) : Reader β :=
  fun s => (read s).map (Step.map f)

/-! ## Single bytes -/

theorem length_lt_cons (b : UInt8) (r : Bytes) : r.length < (b :: r).length := Nat.lt_succ_self _

theorem length_le_cons (b : UInt8) (r : Bytes) : r.length ≤ (b :: r).length := Nat.le_succ _

/-! ## Blanks -/

/-- Whether a byte is a space, a tab, a line feed or a carriage return. -/
def isBlank (b : UInt8) : Bool := b == 0x20 || b == 0x09 || b == 0x0A || b == 0x0D

/-- The bytes without the blanks in front. -/
def skipBlank (s : Bytes) : Bytes := s.dropWhile isBlank

theorem skipBlank_length (s : Bytes) : (skipBlank s).length ≤ s.length :=
  (List.dropWhile_suffix isBlank).length_le

/-- Behind the blanks and one byte more, fewer bytes are left. -/
theorem tail_length_of_skipBlank {s r : Bytes} {b : UInt8} (h : skipBlank s = b :: r) :
    r.length < s.length := by
  have hs := skipBlank_length s
  rw [h, List.length_cons] at hs
  omega

theorem cons_length_of_skipBlank {s r : Bytes} {b : UInt8} (h : skipBlank s = b :: r) :
    (b :: r).length ≤ s.length := h ▸ skipBlank_length s

theorem tail_length_le_of_skipBlank {s r : Bytes} {b : UInt8} (h : skipBlank s = b :: r) :
    r.length ≤ s.length := Nat.le_of_lt (tail_length_of_skipBlank h)

/-! ## Words -/

/-- The letters of `null`. -/
def nullWord : Bytes := [0x6E, 0x75, 0x6C, 0x6C]

/-- The letters of `true`. -/
def trueWord : Bytes := [0x74, 0x72, 0x75, 0x65]

/-- The letters of `false`. -/
def falseWord : Bytes := [0x66, 0x61, 0x6C, 0x73, 0x65]

theorem nullWord_length_pos : 0 < nullWord.length := by decide

theorem trueWord_length_pos : 0 < trueWord.length := by decide

theorem falseWord_length_pos : 0 < falseWord.length := by decide

/-- Reads the letters of a word one by one; the first letter that differs is
read as well before the word is refused. -/
def letters : (expected : Bytes) → (s : Bytes) →
    Except Failure { r : Bytes // r.length + expected.length = s.length }
  | [], s => .ok ⟨s, rfl⟩
  | _ :: _, [] => .error (.at .endInValue [])
  | c :: expected, b :: s =>
    if b = c then do
      let ⟨r, h⟩ ← letters expected s
      .ok ⟨r, by simp only [List.length_cons]; omega⟩
    else .error (.at .wordExpected s)

/-- Reads a word, which is not empty, as a given value. -/
def word {α : Type} (expected : Bytes) (value : α) (h : 0 < expected.length) : Reader α :=
    fun s => do
  let ⟨r, hr⟩ ← letters expected s
  .ok ⟨value, r, by omega⟩

end Dashboard.Json
