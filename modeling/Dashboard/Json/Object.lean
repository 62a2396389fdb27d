import Dashboard.Json.Text

/-!
# The outside of lists and objects

What stands between the members of an object and between the elements of a
list, for the objects and lists whose content is wanted.

## Main definitions

* `Json.nextKey` — the next key of an object, or its end.
* `Json.colon` — what stands behind a key.
* `Json.nextElement` — the place of the next element of a list, or its end.
* `Json.listEnd` — the end of a list that may hold no more elements.
-/

namespace Dashboard.Json

/-- The bytes of the punctuation. -/
def comma : UInt8 := 0x2C
def colonByte : UInt8 := 0x3A
def openBracket : UInt8 := 0x5B
def closeBracket : UInt8 := 0x5D
def openBrace : UInt8 := 0x7B
def closeBrace : UInt8 := 0x7D

/--
Reads the next key of an object, or its closing brace, which gives no key.
In front of every key but the first a comma is required.
-/
def nextKey (first : Bool) : Reader (Option String) := fun s =>
  match h : skipBlank s with
  | [] => .error (.peek .endInObject [])
  | b :: r =>
    have hr := tail_length_of_skipBlank h
    if b = closeBrace then .ok ⟨none, r, hr⟩
    else if first then
      if b = quoteByte then (text r).map fun t => ⟨some t.value, t.rest, by have := t.shorter; omega⟩
      else .error (.peek .keyExpected (b :: r))
    else if b = comma then
      match h1 : skipBlank r with
      | [] => .error (.peek .endInValue [])
      | c :: q =>
        have hq := tail_length_of_skipBlank h1
        if c = quoteByte then
          (text q).map fun t => ⟨some t.value, t.rest, by have := t.shorter; omega⟩
        else if c = closeBrace then .error (.peek .trailingComma (c :: q))
        else .error (.peek .keyExpected (c :: q))
    else .error (.peek .objectSeparatorExpected (b :: r))

/-- Reads the colon behind a key. -/
def colon : Reader Unit := fun s =>
  match h : skipBlank s with
  | [] => .error (.peek .endInObject [])
  | b :: r =>
    if b = colonByte then .ok ⟨(), r, tail_length_of_skipBlank h⟩
    else .error (.peek .colonExpected (b :: r))

/-- What stands at the next place of a list. -/
inductive Place (s : Bytes) where
  /-- An element, which begins at `rest`. -/
  | element (rest : Bytes) (notLonger : rest.length ≤ s.length)
  /-- The closing bracket, and what follows it. -/
  | close (rest : Bytes) (shorter : rest.length < s.length)

/-- Finds the next element of a list, or reads its closing bracket. In front
of every element but the first a comma is required. -/
def nextElement (first : Bool) (s : Bytes) : Except Failure (Place s) :=
  match h : skipBlank s with
  | [] => .error (.peek .endInList [])
  | b :: r =>
    if b = closeBracket then .ok (.close r (tail_length_of_skipBlank h))
    else if first then .ok (.element (b :: r) (cons_length_of_skipBlank h))
    else if b = comma then
      match h1 : skipBlank r with
      | [] => .error (.peek .endInValue [])
      | c :: q =>
        if c = closeBracket then .error (.peek .trailingComma (c :: q))
        else .ok (.element (c :: q) (by
          have := tail_length_of_skipBlank h
          have := cons_length_of_skipBlank h1
          omega))
    else .error (.peek .listSeparatorExpected (b :: r))

/-- Reads the closing bracket of a list that may hold no more elements. -/
def listEnd : Reader Unit := fun s =>
  match h : skipBlank s with
  | [] => .error (.peek .endInList [])
  | b :: r =>
    if b = closeBracket then .ok ⟨(), r, tail_length_of_skipBlank h⟩
    else if b = comma then
      match skipBlank r with
      | [] => .error (.peek .trailingCharacters [])
      | c :: q =>
        .error (.peek (if c = closeBracket then .trailingComma else .trailingCharacters) (c :: q))
    else .error (.peek .trailingCharacters (b :: r))

end Dashboard.Json
