import Dashboard.Text.Utf8

/-!
# Why a body is not the document that was wanted

A body is read once from left to right, and the first thing that is wrong
with it decides. A failure is its cause and the place where it was noticed,
kept as the number of bytes that were still to come; line and column are
worked out only when the failure is shown.

## Main definitions

* `Json.Cause` — everything that can be wrong.
* `Json.Failure` — a cause and a place.
* `Json.Failure.describe` — the text, with line and column.
-/

namespace Dashboard.Json

/-- What can be wrong with a body. -/
inductive Cause where
  /-- The body ends where a value, a list, an object or a string goes on. -/
  | endInValue
  | endInList
  | endInObject
  | endInString
  /-- Nothing that begins a value stands here. -/
  | valueExpected
  /-- A word that begins like `null`, `true` or `false` goes on differently. -/
  | wordExpected
  | colonExpected
  | listSeparatorExpected
  | objectSeparatorExpected
  | keyExpected
  /-- A comma with nothing after it. -/
  | trailingComma
  /-- Something stands after the value. -/
  | trailingCharacters
  | malformedNumber
  | numberTooLarge
  | malformedEscape
  | unpairedSurrogate
  | surrogateCutShort
  | controlCharacter
  | malformedText
  /-- A value of another kind than the wanted one. -/
  | mistyped (found wanted : String)
  | duplicateMember (key : String)
  | missingMember (key : String)
  /-- A list in place of a record has too few elements. -/
  | tooShort (count : Nat) (wanted : String)
  deriving DecidableEq

/-- A cause and the place where it was noticed. -/
structure Failure where
  /-- What is wrong. -/
  cause : Cause
  /-- How many bytes come after the place. -/
  left : Nat
  /-- How many columns before the place the failure is shown. -/
  back : Nat
  deriving DecidableEq

/-- A failure noticed in front of `rest`. -/
def Failure.at (cause : Cause) (rest : Bytes) : Failure := ⟨cause, rest.length, 0⟩

/-- A failure noticed by looking at the first byte of `rest`, which is shown
behind that byte, or at the end if there is none. -/
def Failure.peek (cause : Cause) (rest : Bytes) : Failure := ⟨cause, rest.length - 1, 0⟩

/-! ## Texts -/

/-- The wording of a cause. -/
def Cause.describe : Cause → String
  | .endInValue => "EOF while parsing a value"
  | .endInList => "EOF while parsing a list"
  | .endInObject => "EOF while parsing an object"
  | .endInString => "EOF while parsing a string"
  | .valueExpected => "expected value"
  | .wordExpected => "expected ident"
  | .colonExpected => "expected `:`"
  | .listSeparatorExpected => "expected `,` or `]`"
  | .objectSeparatorExpected => "expected `,` or `\x7d`"
  | .keyExpected => "key must be a string"
  | .trailingComma => "trailing comma"
  | .trailingCharacters => "trailing characters"
  | .malformedNumber => "invalid number"
  | .numberTooLarge => "number out of range"
  | .malformedEscape => "invalid escape"
  | .unpairedSurrogate => "lone leading surrogate in hex escape"
  | .surrogateCutShort => "unexpected end of hex escape"
  | .controlCharacter => "control character (\\u0000-\\u001F) found while parsing a string"
  | .malformedText => "invalid unicode code point"
  | .mistyped found wanted => "invalid type: " ++ found ++ ", expected " ++ wanted
  | .duplicateMember key => "duplicate field `" ++ key ++ "`"
  | .missingMember key => "missing field `" ++ key ++ "`"
  | .tooShort count wanted => "invalid length " ++ toString count ++ ", expected " ++ wanted

/-- Line and column reached after some bytes: lines count from one, columns
count the bytes since the last line feed. -/
def place (consumed : Bytes) : Nat × Nat :=
  ((consumed.filter (· == 0x0A)).length + 1, (consumed.reverse.takeWhile (· != 0x0A)).length)

/-- The text of a failure in a body. -/
def Failure.describe (body : Bytes) (f : Failure) : String :=
  let (line, column) := place (body.take (body.length - f.left))
  f.cause.describe ++ " at line " ++ toString line ++ " column " ++ toString (column - f.back)

end Dashboard.Json
