import Dashboard.Json.Skip
import Dashboard.Text.Quoted

/-!
# Documents

Readers for the kinds of document that the backend sends: flags, texts,
values that may be missing, dictionaries, and records with fixed keys.

## Records

A record is an object whose members may come in any order, each known key at
most once and unknown ones any number of times, or a list of its members in
the order of their declaration. A member that is left out takes its default,
if it has one.

## Main definitions

* `Json.flag`, `Json.string`, `Json.optional`, `Json.dictionary` — readers.
* `Json.Record` — the members of a record, and `Json.Record.read`.
* `Json.decode` — a whole body.
-/

namespace Dashboard.Json

/-! ## Values of the wrong kind -/

/-- The failure for a value that is not of the wanted kind. A word, a number
or a text is read first, because it may be wrong in itself; a list or an
object is not. -/
def mistyped (wanted : String) (s : Bytes) : Failure :=
  let found {α : Type} (name : α → Bytes → Except Failure String) :
      Except Failure (Step s α) → Failure
    | .error e => e
    | .ok ⟨x, r, _⟩ =>
      match name x r with
      | .error e => e
      | .ok name => .at (.mistyped name wanted) r
  match s with
  | [] => .peek .valueExpected []
  | b :: r =>
    if b = 0x6E then found (fun _ _ => .ok "null") (word nullWord () nullWord_length_pos s)
    else if b = 0x74 then
      found (fun _ _ => .ok "boolean `true`") (word trueWord () trueWord_length_pos s)
    else if b = 0x66 then
      found (fun _ _ => .ok "boolean `false`") (word falseWord () falseWord_length_pos s)
    else if b = 0x2D ∨ isDigit b then found Number.describe (number .endInValue s)
    else if b = quoteByte then
      match text r with
      | .error e => e
      | .ok t => .at (.mistyped ("string " ++ Text.quoted t.value) wanted) t.rest
    else if b = openBracket then .at (.mistyped "sequence" wanted) s
    else if b = openBrace then .at (.mistyped "map" wanted) s
    else .peek .valueExpected s

/-! ## Scalars -/

/-- Reads `true` or `false`. -/
def flag : Reader Bool := fun s =>
  match h : skipBlank s with
  | [] => .error (.peek .endInValue [])
  | b :: r =>
    have hb := cons_length_of_skipBlank h
    if b = 0x74 then (word trueWord true trueWord_length_pos (b :: r)).map (Step.from s hb)
    else if b = 0x66 then (word falseWord false falseWord_length_pos (b :: r)).map (Step.from s hb)
    else .error (mistyped "a boolean" (b :: r))

/-- Reads a text. -/
def string : Reader String := fun s =>
  match h : skipBlank s with
  | [] => .error (.peek .endInValue [])
  | b :: r =>
    have hr := tail_length_of_skipBlank h
    if b = quoteByte then (text r).map (Step.from s (by omega))
    else .error (mistyped "a string" (b :: r))

/-- Reads `null` as no value, and anything else as the value it must be. -/
def optional {α : Type} (read : Reader α) : Reader (Option α) := fun s =>
  match h : skipBlank s with
  | [] => (read s).map (Step.map some)
  | b :: r =>
    if b = 0x6E then
      (word nullWord none nullWord_length_pos (b :: r)).map
        (Step.from s (cons_length_of_skipBlank h))
    else (read s).map (Step.map some)

/-! ## Dictionaries -/

/-- The members of an object from some place on, in the order in which they
are written. -/
def entries {α : Type} (read : Reader α) (first : Bool) (s : Bytes) :
    Except Failure (Step s (List (String × α))) := do
  let ⟨key, r, h⟩ ← nextKey first s
  match key with
  | none => .ok ⟨[], r, h⟩
  | some key => do
    let ⟨_, r1, h1⟩ ← colon r
    let ⟨x, r2, h2⟩ ← read r1
    let ⟨others, r3, h3⟩ ← entries read false r2
    .ok ⟨(key, x) :: others, r3, by omega⟩
termination_by s.length

/-- Reads an object with any keys. -/
def dictionary {α : Type} (read : Reader α) : Reader (List (String × α)) := fun s =>
  match h : skipBlank s with
  | [] => .error (.peek .endInValue [])
  | b :: r =>
    have hr := tail_length_of_skipBlank h
    if b = openBrace then (entries read true r).map (Step.from s (by omega))
    else .error (mistyped "a map" (b :: r))

/-- The value of a key: the last one written, if there are several. -/
def lookup? {α : Type} (key : String) (members : List (String × α)) : Option α :=
  (members.reverse.find? (·.1 == key)).map (·.2)

/-! ## Records -/

/-- A member of a record: its key, its kind, and what stands for it when it
is left out. Without the last the member is required. -/
structure Member (α : Type) where
  key : String
  read : Reader α
  absent : Option α

/-- A record with `n` members, whose values have the types `α`. -/
structure Record {n : Nat} (α : Fin n → Type) where
  name : String
  member : (i : Fin n) → Member (α i)

namespace Record

variable {n : Nat} {α : Fin n → Type}

/-- The members read so far. -/
abbrev Slots {n : Nat} (α : Fin n → Type) := (i : Fin n) → Option (α i)

/-- No member was read. -/
def Slots.empty : Slots α := fun _ => none

/-- A member was read. -/
def Slots.put (slots : Slots α) (i : Fin n) (x : α i) : Slots α :=
  fun j => if h : i = j then some (h ▸ x) else slots j

/-- What the members read so far give for one member. -/
def value? (record : Record α) (slots : Slots α) (i : Fin n) : Option (α i) :=
  (slots i).or (record.member i).absent

/-- The member with a key. -/
def find? (record : Record α) (key : String) : Option (Fin n) :=
  (List.finRange n).find? fun i => (record.member i).key == key

/-- The first member that was neither read nor may be left out. -/
def missing? (record : Record α) (slots : Slots α) : Option (Fin n) :=
  (List.finRange n).find? fun i => (record.value? slots i).isNone

theorem isSome_value? {record : Record α} {slots : Slots α}
    (h : record.missing? slots = none) (i : Fin n) : (record.value? slots i).isSome = true := by
  have := List.find?_eq_none.1 h i (List.mem_finRange i)
  simpa [Option.isSome_iff_ne_none] using this

/-- All members, or the first that is missing. -/
def complete (record : Record α) (slots : Slots α) : Except (Fin n) ((i : Fin n) → α i) :=
  match h : record.missing? slots with
  | some i => .error i
  | none => .ok fun i => (record.value? slots i).get (isSome_value? h i)

/-- How a record is called where another kind of value stands. -/
def wanted (record : Record α) : String := "struct " ++ record.name

/-- How a record is called where a list has too few elements. -/
def wantedLong (record : Record α) : String :=
  record.wanted ++ " with " ++ toString n ++ " elements"

/-- The bytes behind the blanks and a closing brace, if one is next. -/
def skipClose (s : Bytes) : Bytes :=
  match skipBlank s with
  | b :: r => if b = closeBrace then r else b :: r
  | [] => []

/-- The members of an object from some place on. A key that was read already
is refused behind its closing quote and whatever blanks and closing brace
follow it there. -/
def members (record : Record α) (first : Bool) (slots : Slots α) (s : Bytes) :
    Except Failure (Step s (Slots α)) := do
  let ⟨key, r, h⟩ ← nextKey first s
  match key with
  | none => .ok ⟨slots, r, h⟩
  | some key =>
    match record.find? key with
    | none => do
      let ⟨_, r1, h1⟩ ← colon r
      let ⟨_, r2, h2⟩ ← skipValue r1
      let ⟨all, r3, h3⟩ ← members record false slots r2
      .ok ⟨all, r3, by omega⟩
    | some i =>
      if (slots i).isSome then .error (.at (.duplicateMember key) (skipClose r))
      else do
        let ⟨_, r1, h1⟩ ← colon r
        let ⟨x, r2, h2⟩ ← (record.member i).read r1
        let ⟨all, r3, h3⟩ ← members record false (slots.put i x) r2
        .ok ⟨all, r3, by omega⟩
termination_by s.length

/-- The record that an object from some place on writes. A required member
is missed only behind the closing brace. -/
def readObject (record : Record α) : Reader ((i : Fin n) → α i) := fun s => do
  let ⟨slots, r, h⟩ ← record.members true Slots.empty s
  match record.complete slots with
  | .ok values => .ok ⟨values, r, h⟩
  | .error i => .error (.at (.missingMember (record.member i).key) r)

/-- The record that a list from some place on writes; `todo` are the members
that are still to come. A list that is too short counts up to the first
required member it lacks. -/
def readList (record : Record α) :
    (todo : List (Fin n)) → (first : Bool) → Slots α → Reader ((i : Fin n) → α i)
  | [], _, slots => fun s => do
    let ⟨_, r, h⟩ ← listEnd s
    match record.complete slots with
    | .ok values => .ok ⟨values, r, h⟩
    | .error i => .error (.at (.tooShort i record.wantedLong) r)
  | i :: todo, first, slots => fun s => do
    match ← nextElement first s with
    | .close r h =>
      match record.complete slots with
      | .ok values => .ok ⟨values, r, h⟩
      | .error i => .error (.at (.tooShort i record.wantedLong) r)
    | .element t ht => do
      let ⟨x, r, h⟩ ← (record.member i).read t
      let ⟨values, q, hq⟩ ← readList record todo false (slots.put i x) r
      .ok ⟨values, q, by omega⟩

/-- Reads a record, from an object or from a list. -/
def read (record : Record α) : Reader ((i : Fin n) → α i) := fun s =>
  match h : skipBlank s with
  | [] => .error (.peek .endInValue [])
  | b :: r =>
    have hr := tail_length_of_skipBlank h
    if b = openBrace then (record.readObject r).map (Step.from s (by omega))
    else if b = openBracket then
      (record.readList (List.finRange n) true Slots.empty r).map (Step.from s (by omega))
    else .error (mistyped record.wanted (b :: r))

end Record

/-! ## Whole bodies -/

/-- Reads a body that holds one document and nothing else but blanks. -/
def decode {α : Type} (read : Reader α) (body : Bytes) : Except Failure α := do
  let ⟨x, r, _⟩ ← read body
  match skipBlank r with
  | [] => .ok x
  | b :: r => .error (.peek .trailingCharacters (b :: r))

end Dashboard.Json
