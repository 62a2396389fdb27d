import Dashboard.Json.Number
import Dashboard.Json.Object

/-!
# Values that nobody asks for

A member whose key is unknown may hold any value, nested to any depth. The
value is passed over, and only its grammar is checked.

## Main definitions

* `Json.skipValue` — passes over a value.
-/

namespace Dashboard.Json

/-- Finds the opening quote of a key inside a value that is passed over. -/
def openKey (s : Bytes) : Except Failure { r : Bytes // r.length < s.length } :=
  match h : skipBlank s with
  | [] => .error (.peek .endInObject [])
  | b :: r =>
    if b = quoteByte then .ok ⟨r, tail_length_of_skipBlank h⟩
    else .error (.peek .keyExpected (b :: r))

/-- Passes over a key and its colon. -/
def skipKey : Reader Unit := fun s => do
  let ⟨r, h⟩ ← openKey s
  let ⟨_, r, h1⟩ ← skipText r
  let ⟨_, r, h2⟩ ← colon r
  .ok ⟨(), r, by omega⟩

/-- Passes over a word, a number or a text that begins with the byte `b`. -/
def skipScalar (b : UInt8) (r : Bytes) : Except Failure (Step (b :: r) Unit) :=
  if b = 0x6E then word nullWord () nullWord_length_pos (b :: r)
  else if b = 0x74 then word trueWord () trueWord_length_pos (b :: r)
  else if b = 0x66 then word falseWord () falseWord_length_pos (b :: r)
  else if b = 0x2D ∨ isDigit b then
    (number .malformedNumber (b :: r)).map (Step.map fun _ => ())
  else if b = quoteByte then
    (skipText r).map (Step.from (b :: r) (length_le_cons b r))
  else .error (.peek .valueExpected (b :: r))

mutual

/-- Passes over a value. -/
def skipValue (s : Bytes) : Except Failure (Step s Unit) :=
  match h : skipBlank s with
  | [] => .error (.peek .endInValue [])
  | b :: r =>
    have := tail_length_of_skipBlank h
    if b = openBracket then
      (skipElements true r).map (Step.from s (tail_length_le_of_skipBlank h))
    else if b = openBrace then
      (skipMembers true r).map (Step.from s (tail_length_le_of_skipBlank h))
    else (skipScalar b r).map (Step.from s (cons_length_of_skipBlank h))
termination_by 2 * s.length
decreasing_by all_goals omega

/-- Passes over the elements of a list that are left and its closing
bracket. -/
def skipElements (first : Bool) (s : Bytes) : Except Failure (Step s Unit) :=
  match h : skipBlank s with
  | [] => .error (.peek .endInList [])
  | b :: r =>
    have hr := tail_length_of_skipBlank h
    have hb := cons_length_of_skipBlank h
    if b = closeBracket then .ok ⟨(), r, hr⟩
    else if first then do
      let element ← skipValue (b :: r)
      have _he := element.shorter
      let others ← skipElements false element.rest
      .ok ((element.then others).from s hb)
    else if b = comma then do
      let element ← skipValue r
      have _he := element.shorter
      let others ← skipElements false element.rest
      .ok ((element.then others).from s (tail_length_le_of_skipBlank h))
    else .error (.peek .listSeparatorExpected (b :: r))
termination_by 2 * s.length + 1
decreasing_by all_goals omega

/-- Passes over the members of an object that are left and its closing
brace. -/
def skipMembers (first : Bool) (s : Bytes) : Except Failure (Step s Unit) :=
  match h : skipBlank s with
  | [] => .error (.peek .endInObject [])
  | b :: r =>
    have hr := tail_length_of_skipBlank h
    have hb := cons_length_of_skipBlank h
    if b = closeBrace then .ok ⟨(), r, hr⟩
    else if first then do
      let key ← skipKey (b :: r)
      have _hk := key.shorter
      let value ← skipValue key.rest
      have _hv := value.shorter
      let others ← skipMembers false value.rest
      .ok ((key.then (value.then others)).from s hb)
    else if b = comma then do
      let key ← skipKey r
      have _hk := key.shorter
      let value ← skipValue key.rest
      have _hv := value.shorter
      let others ← skipMembers false value.rest
      .ok ((key.then (value.then others)).from s (tail_length_le_of_skipBlank h))
    else .error (.peek .objectSeparatorExpected (b :: r))
termination_by 2 * s.length + 1
decreasing_by all_goals omega

end

end Dashboard.Json
