import Dashboard.Json.Reader

/-!
# Quoted texts

A quoted text is read from behind its opening quote. Escapes are replaced by
the bytes they stand for, and only the whole content, once its closing quote
was found, is required to be well-formed UTF-8. A text that nobody asks for
is skipped under a laxer rule: its content may be any bytes and its
surrogates need no partner.

## Main definitions

* `Json.text` — a text with its escapes replaced.
* `Json.skipText` — a text that is passed over.
* `Json.quote` — the written form of a text.
-/

namespace Dashboard.Json

/-- The bytes `"`, `\` and the letter `u`. -/
def quoteByte : UInt8 := 0x22
def backslash : UInt8 := 0x5C
def unicodeLetter : UInt8 := 0x75

/-! ## Escapes -/

/-- The byte that a one-letter escape stands for. -/
def simpleEscape? (b : UInt8) : Option UInt8 :=
  if b = 0x22 ∨ b = 0x5C ∨ b = 0x2F then some b
  else if b = 0x62 then some 0x08
  else if b = 0x66 then some 0x0C
  else if b = 0x6E then some 0x0A
  else if b = 0x72 then some 0x0D
  else if b = 0x74 then some 0x09
  else none

/-- The value of a hexadecimal digit of either case. -/
def hexDigit? (b : UInt8) : Option Nat :=
  if 0x30 ≤ b ∧ b ≤ 0x39 then some (b.toNat - 0x30)
  else if 0x41 ≤ b ∧ b ≤ 0x46 then some (b.toNat - 0x37)
  else if 0x61 ≤ b ∧ b ≤ 0x66 then some (b.toNat - 0x57)
  else none

/-- The value of four hexadecimal digits. -/
def hexQuad? (a b c d : UInt8) : Option Nat := do
  let a ← hexDigit? a
  let b ← hexDigit? b
  let c ← hexDigit? c
  let d ← hexDigit? d
  some (((a * 16 + b) * 16 + c) * 16 + d)

/-- Reads four hexadecimal digits. Four bytes are taken before they are
looked at. -/
def quad : Reader Nat
  | a :: b :: c :: d :: r =>
    match hexQuad? a b c d with
    | some n => .ok ⟨n, r, by simp only [List.length_cons]; omega⟩
    | none => .error (.at .malformedEscape r)
  | _ => .error (.at .endInString [])

/-- Whether a value is the first half of a surrogate pair. -/
def isLeading (n : Nat) : Bool := 0xD800 ≤ n && n ≤ 0xDBFF

/-- Whether a value is the second half of a surrogate pair. -/
def isTrailing (n : Nat) : Bool := 0xDC00 ≤ n && n ≤ 0xDFFF

/-- The code point that a surrogate pair stands for. -/
def pairValue (leading trailing : Nat) : Nat :=
  (leading - 0xD800) * 0x400 + (trailing - 0xDC00) + 0x10000

/-- Takes one expected byte of an escape that must follow a leading
surrogate; another byte is taken as well and then refused. -/
def pairByte (expected : UInt8) : Reader Unit
  | [] => .error (.at .endInString [])
  | b :: r =>
    if b = expected then .ok ⟨(), r, length_lt_cons b r⟩
    else .error (.at .surrogateCutShort r)

/-- Reads what follows the letter `u` of an escape, as the bytes of the
character it stands for. A leading surrogate must be followed by the escape
of a trailing one. -/
def unicodeEscape : Reader Bytes := fun s => do
  let ⟨n, r, h⟩ ← quad s
  if isTrailing n then .error (.at .unpairedSurrogate r)
  else if isLeading n then do
    let ⟨_, r, h1⟩ ← pairByte backslash r
    let ⟨_, r, h2⟩ ← pairByte unicodeLetter r
    let ⟨m, r, h3⟩ ← quad r
    if isTrailing m then
      .ok ⟨String.utf8EncodeChar (Char.ofNat (pairValue n m)), r, by omega⟩
    else .error (.at .unpairedSurrogate r)
  else .ok ⟨String.utf8EncodeChar (Char.ofNat n), r, h⟩

/-- Reads what follows the backslash of an escape, as the bytes it stands
for. -/
def escape : Reader Bytes
  | [] => .error (.at .endInString [])
  | b :: r =>
    if b = unicodeLetter then
      (unicodeEscape r).map (Step.from (b :: r) (length_le_cons b r))
    else match simpleEscape? b with
      | some c => .ok ⟨[c], r, length_lt_cons b r⟩
      | none => .error (.at .malformedEscape r)

/-! ## Whole texts -/

/-- Reads a text from behind its opening quote, as the bytes of its content.
A control character is taken before it is refused. -/
def content (s : Bytes) : Except Failure (Step s Bytes) :=
  match s with
  | [] => .error (.at .endInString [])
  | b :: r =>
    if b = quoteByte then .ok ⟨[], r, length_lt_cons b r⟩
    else if b = backslash then do
      let c ← escape r
      have _hc := c.shorter
      let others ← content c.rest
      .ok (((c.then others).map (c.value ++ ·)).from (b :: r) (length_le_cons b r))
    else if b < 0x20 then .error (.at .controlCharacter r)
    else do
      let others ← content r
      .ok ((others.map (b :: ·)).from (b :: r) (length_le_cons b r))
termination_by s.length
decreasing_by all_goals simp only [List.length_cons]; omega

/-- Reads a text from behind its opening quote. Content that is not
well-formed UTF-8 is shown at its first ill-formed byte, counted back from
the closing quote. -/
def text : Reader String := fun s => do
  let ⟨bytes, r, h⟩ ← content s
  match Utf8.decode? bytes with
  | some t => .ok ⟨t, r, h⟩
  | none => .error ⟨.malformedText, r.length, bytes.length - Utf8.validLength bytes⟩

/-- Passes over what follows the backslash of an escape. -/
def skipEscape : Reader Unit
  | [] => .error (.at .endInString [])
  | b :: r =>
    if b = unicodeLetter then
      (quad r).map fun q => (q.map fun _ => ()).from (b :: r) (length_le_cons b r)
    else if (simpleEscape? b).isSome then .ok ⟨(), r, length_lt_cons b r⟩
    else .error (.at .malformedEscape r)

/-- Passes over a text from behind its opening quote. A control character is
refused without being taken. -/
def skipText (s : Bytes) : Except Failure (Step s Unit) :=
  match s with
  | [] => .error (.at .endInString [])
  | b :: r =>
    if b = quoteByte then .ok ⟨(), r, length_lt_cons b r⟩
    else if b = backslash then do
      let c ← skipEscape r
      have _hc := c.shorter
      let others ← skipText c.rest
      .ok ((c.then others).from (b :: r) (length_le_cons b r))
    else if b < 0x20 then .error (.at .controlCharacter (b :: r))
    else (skipText r).map (Step.from (b :: r) (length_le_cons b r))
termination_by s.length
decreasing_by all_goals simp only [List.length_cons]; omega

/-! ## The written form -/

/-- The lower-case hexadecimal digit of a value below sixteen. -/
def hexDigit (n : Nat) : Char := if n < 10 then Char.ofNat (48 + n) else Char.ofNat (87 + n)

/-- One character between quotes: quote, backslash and the characters below
U+0020 are escaped, by a letter where there is one. -/
def quoteChar (c : Char) : List Char :=
  if c = '"' ∨ c = '\\' then ['\\', c]
  else if c = '\x08' then "\\b".toList
  else if c = '\x0C' then "\\f".toList
  else if c = '\n' then "\\n".toList
  else if c = '\r' then "\\r".toList
  else if c = '\t' then "\\t".toList
  else if c.toNat < 0x20 then "\\u00".toList ++ [hexDigit (c.toNat / 16), hexDigit (c.toNat % 16)]
  else [c]

/-- The written form of a text. -/
def quote (t : String) : List Char := '"' :: t.toList.flatMap quoteChar ++ ['"']

end Dashboard.Json
