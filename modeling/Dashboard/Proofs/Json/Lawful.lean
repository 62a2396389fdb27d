import Dashboard.Json.Record
import Dashboard.Proofs.Json.Skip

/-!
# Lawful readers

A reader for one kind of document is given its meaning as a function on values:
what the value says, or nothing if it is of another kind.  A lawful reader gives
just that where a value is written, and reads nothing but values.  Both laws pass
from the reader of a part to the reader of the whole, and for whole bodies they
say that decoding takes a body apart as its grammar does.

## Main definitions

* `Json.Lawful` — the two laws of a reader.
* `Json.Value.flag?`, `Json.Value.text?`, `Json.Value.optional?`,
  `Json.Value.dictionary?` — what the values of a kind say.

## Main results

* `Json.Lawful.decode_eq_ok_iff` — decoding a document gives what it says.
* `Json.Lawful.exists_of_decode` — what is decoded is a document.
* `Json.lawful_flag`, `Json.lawful_string`, `Json.Lawful.optional`,
  `Json.Lawful.dictionary` — the readers are lawful.
-/

namespace Dashboard.Json

open Utf8 (bytes bytes_cons_ascii)

variable {α β : Type}

/-- The laws of a reader, given what the values of its kind say. -/
structure Lawful (read : Reader α) (means : Value → Option α) : Prop where
  /-- Where a value is written, what it says is read. -/
  reads : ∀ {v : Value} {bs cs ds : List Char}, Blanks bs cs → Written (.value v) cs ds →
    outcome? (read (bytes bs)) = (means v).map fun x => (x, bytes ds)
  /-- What is read would have been passed over. -/
  passes : ∀ {s r : Bytes} {x : α}, outcome? (read s) = some (x, r) →
    outcome? (skipValue s) = some ((), r)

/-! ## Whole bodies -/

theorem decode_eq_ok_iff {read : Reader α} {body : Bytes} {x : α} :
    decode read body = .ok x ↔ ∃ r, outcome? (read body) = some (x, r) ∧ skipBlank r = [] := by
  simp only [decode]
  cases read body with
  | error f =>
    constructor
    · intro eq
      cases eq
    · rintro ⟨_, eq, _⟩
      cases eq
  | ok step =>
    obtain ⟨y, r, shorter⟩ := step
    simp only [outcome?_ok, Option.some.injEq, Prod.mk.injEq, bind, Except.bind]
    cases blank : skipBlank r with
    | nil =>
      constructor
      · intro eq
        exact ⟨r, ⟨Except.ok.inj eq, rfl⟩, blank⟩
      · rintro ⟨_, eq, _⟩
        rw [eq.1]
    | cons b t =>
      constructor
      · intro eq
        cases eq
      · rintro ⟨_, eq, none⟩
        rw [← eq.2, blank] at none
        cases none

/-- A document is decoded if it says something of the wanted kind. -/
theorem Lawful.decode_eq_ok_iff {read : Reader α} {means : Value → Option α}
    (law : Lawful read means) {text : String} {v : Value} (document : IsDocument text v) {x : α} :
    decode read (Utf8.encode text) = .ok x ↔ means v = some x := by
  obtain ⟨cs, ds, before, written, behind⟩ := document
  rw [Json.decode_eq_ok_iff]
  show (∃ r, outcome? (read (bytes text.toList)) = _ ∧ _) ↔ _
  rw [law.reads before written]
  constructor
  · rintro ⟨r, eq, _⟩
    obtain ⟨y, said, same⟩ := Option.map_eq_some_iff.1 eq
    rw [said, (Prod.mk.inj same).1]
  · intro said
    refine ⟨bytes ds, by rw [said, Option.map_some], ?_⟩
    rw [skipBlank_of_blanks behind]
    rfl

/-- What is decoded is a document. -/
theorem Lawful.exists_of_decode {read : Reader α} {means : Value → Option α}
    (law : Lawful read means) {text : String} {x : α}
    (ok : decode read (Utf8.encode text) = .ok x) :
    ∃ v, IsDocument text v ∧ means v = some x := by
  obtain ⟨r, read', blank⟩ := Json.decode_eq_ok_iff.1 ok
  obtain ⟨cs, v, ds, before, written, rfl⟩ := exists_of_skipValue (law.passes read')
  obtain ⟨es, behind, left⟩ := exists_blanks blank
  rw [Utf8.bytes_eq_nil.1 left] at behind
  have document : IsDocument text v := ⟨cs, ds, before, written, behind⟩
  exact ⟨v, document, (law.decode_eq_ok_iff document).1 ok⟩

/-! ## Scalars -/

/-- The flag that a value says. -/
def Value.flag? : Value → Option Bool
  | .flag b => some b
  | _ => none

/-- The text that a value says. -/
def Value.text? : Value → Option String
  | .text t => t
  | _ => none

theorem Value.flag?_eq_some {v : Value} {b : Bool} : v.flag? = some b ↔ v = .flag b := by
  cases v <;> simp [Value.flag?]

theorem skipValue_of_null {s r : Bytes} (eq : skipBlank s = nullWord ++ r) :
    outcome? (skipValue s) = some ((), r) :=
  (outcome?_skipValue eq).trans (outcome?_word () nullWord_length_pos r)

theorem skipValue_of_true {s r : Bytes} (eq : skipBlank s = trueWord ++ r) :
    outcome? (skipValue s) = some ((), r) :=
  (outcome?_skipValue eq).trans (outcome?_word () trueWord_length_pos r)

theorem skipValue_of_false {s r : Bytes} (eq : skipBlank s = falseWord ++ r) :
    outcome? (skipValue s) = some ((), r) :=
  (outcome?_skipValue eq).trans (outcome?_word () falseWord_length_pos r)

/-- The first byte of a value tells what the value is not. -/
theorem Written.first {v : Value} {bs cs ds : List Char} (h : Written (.value v) cs ds)
    (blanks : Blanks bs cs) : ∃ b r, Json.skipBlank (bytes bs) = b :: r ∧
      ∀ d : Char, d.toNat < 0x80 → ¬ v.Opens d → b ≠ UInt8.ofNat d.toNat := by
  obtain ⟨c, es, rfl, opens, eq⟩ := h.skipBlank blanks
  refine ⟨_, _, eq, fun d small other same => other ?_⟩
  rwa [← (Utf8.ofNat_inj_of_ascii opens.token.1 small).1 same]

theorem outcome?_flag (s : Bytes) :
    outcome? (flag s) = match skipBlank s with
      | [] => none
      | b :: r =>
        if b = 0x74 then outcome? (word trueWord true trueWord_length_pos (b :: r))
        else if b = 0x66 then outcome? (word falseWord false falseWord_length_pos (b :: r))
        else none := by
  rw [flag]
  split
  · next eq => simp only [eq]; rfl
  · next b r eq =>
    simp only [eq]
    split
    · exact outcome?_from _ _
    split
    · exact outcome?_from _ _
    · rfl

theorem lawful_flag : Lawful flag Value.flag? where
  reads {v bs cs ds} blanks h := by
    rw [outcome?_flag]
    cases v with
    | flag b =>
      cases h with
      | true =>
        rw [skipBlank_cons blanks (by decide) (by decide)]
        exact outcome?_word true trueWord_length_pos (bytes ds)
      | false =>
        rw [skipBlank_cons blanks (by decide) (by decide)]
        exact outcome?_word false falseWord_length_pos (bytes ds)
    | null | number | text | list | object =>
      obtain ⟨b, r, eq, other⟩ := h.first blanks
      rw [eq]
      refine (if_neg (other 't' (by decide) ?_)).trans (if_neg (other 'f' (by decide) ?_)) <;>
        simp [Value.Opens]
  passes {s r x} read := by
    rw [outcome?_flag] at read
    split at read
    · cases read
    · next b t eq =>
      split at read
      · exact skipValue_of_true (eq.trans (exists_of_word read).2)
      split at read
      · exact skipValue_of_false (eq.trans (exists_of_word read).2)
      · cases read

theorem outcome?_string (s : Bytes) :
    outcome? (string s) = match skipBlank s with
      | [] => none
      | b :: r => if b = quoteByte then outcome? (text r) else none := by
  rw [string]
  split
  · next eq => simp only [eq]; rfl
  · next b r eq =>
    simp only [eq]
    split
    · exact outcome?_from _ _
    · rfl

theorem lawful_string : Lawful string Value.text? where
  reads {v bs cs ds} blanks h := by
    rw [outcome?_string]
    cases v with
    | text t =>
      cases h with
      | text content =>
        rw [skipBlank_cons blanks (by decide) (by decide)]
        exact outcome?_text content
    | null | flag | number | list | object =>
      obtain ⟨b, r, eq, other⟩ := h.first blanks
      rw [eq]
      refine if_neg (other '"' (by decide) ?_)
      simp [Value.Opens]
  passes {s r x} read := by
    rw [outcome?_string] at read
    split at read
    · cases read
    · next b t eq =>
      split at read
      · next quote =>
        subst quote
        rw [outcome?_skipValue eq]
        exact (outcome?_from (length_le_cons quoteByte t) (skipText t)).trans
          (skipText_of_text read)
      · cases read

/-! ## Values that may be missing -/

/-- What a value says that may be `null`. -/
def Value.optional? (means : Value → Option α) : Value → Option (Option α)
  | .null => some none
  | v => (means v).map some

theorem outcome?_optional (read : Reader α) {s r : Bytes} {b : UInt8} (eq : skipBlank s = b :: r) :
    outcome? (optional read s) =
      if b = 0x6E then outcome? (word nullWord none nullWord_length_pos (b :: r))
      else (outcome? (read s)).map (Prod.map some id) := by
  rw [optional]
  split
  · next eq' => cases eq.symm.trans eq'
  · next b' r' eq' =>
    cases eq.symm.trans eq'
    split
    · exact outcome?_from _ _
    · exact outcome?_map _ _

theorem Lawful.map {read : Reader α} {means : Value → Option α} (law : Lawful read means)
    (f : α → β) : Lawful (read.map f) fun v => (means v).map f where
  reads blanks h := by
    rw [Reader.map, outcome?_map, law.reads blanks h, Option.map_map, Option.map_map]
    rfl
  passes read' := by
    rw [Reader.map, outcome?_map] at read'
    obtain ⟨p, inner, same⟩ := Option.map_eq_some_iff.1 read'
    cases same
    exact law.passes inner

theorem Lawful.optional {read : Reader α} {means : Value → Option α} (law : Lawful read means) :
    Lawful (Json.optional read) (Value.optional? means) where
  reads {v bs cs ds} blanks h := by
    cases v with
    | null =>
      cases h
      rw [outcome?_optional read (skipBlank_cons blanks (by decide) (by decide))]
      exact outcome?_word none nullWord_length_pos (bytes ds)
    | flag | number | text | list | object =>
      obtain ⟨b, r, eq, other⟩ := h.first blanks
      have notNull : b ≠ 0x6E := other 'n' (by decide) (by simp [Value.Opens])
      rw [outcome?_optional read eq, if_neg notNull, law.reads blanks h, Value.optional?,
        Option.map_map, Option.map_map]
      · rfl
      · nofun
  passes {s r x} read' := by
    cases eq : skipBlank s with
    | nil =>
      rw [Json.optional] at read'
      split at read'
      · exact (law.map some).passes read'
      · next eq' => cases eq.symm.trans eq'
    | cons b t =>
      rw [outcome?_optional read eq] at read'
      split at read'
      · exact skipValue_of_null (eq.trans (exists_of_word read').2)
      · obtain ⟨p, inner, same⟩ := Option.map_eq_some_iff.1 read'
        cases same
        exact law.passes inner

/-! ## Members -/

/-- No key is found where an object ends. -/
theorem nextKey_of_end {first : Bool} {cs ds : List Char} (blanks : Blanks cs ('\x7d' :: ds)) :
    outcome? (nextKey first (bytes cs)) = some (none, bytes ds) := by
  rw [outcome?_nextKey, place?_of_blanks (.inr rfl) blanks]
  rfl

/-- The next key is found where one is written, if it says a text. -/
theorem nextKey_of_lead {first : Bool} {items : List Item} {cs ds es : List Char}
    (lead : Lead first cs ('"' :: ds)) (content : Content items ds es) :
    outcome? (nextKey first (bytes cs)) = (textOf items).map fun t => (some t, bytes es) := by
  obtain ⟨fs, place, blanks⟩ := place?_of_lead (.inr rfl) lead (by decide) (by decide) (by decide)
  rw [outcome?_nextKey, place, Option.bind_some, if_neg Bool.false_ne_true,
    after?_of_blanks blanks (by decide) (by decide), Option.bind_some, outcome?_text content,
    Option.map_map]
  rfl

theorem colon_of_blanks {cs ds : List Char} (blanks : Blanks cs (':' :: ds)) :
    outcome? (colon (bytes cs)) = some ((), bytes ds) := by
  rw [outcome?_colon, after?_of_blanks blanks (by decide) (by decide)]
  rfl

/-- An object that ends is passed over. -/
theorem skipMembers_of_end {first : Bool} {s r : Bytes}
    (key : outcome? (nextKey first s) = some (none, r)) :
    outcome? (skipMembers first s) = some ((), r) := by
  rw [outcome?_nextKey] at key
  obtain ⟨⟨closed, t⟩, place, key⟩ := Option.bind_eq_some_iff.1 key
  rw [outcome?_skipMembers, place]
  cases closed with
  | true =>
    cases key
    rfl
  | false =>
    obtain ⟨_, _, key⟩ := Option.bind_eq_some_iff.1 key
    obtain ⟨_, _, same⟩ := Option.map_eq_some_iff.1 key
    cases same

/-- A member and those behind it are passed over. -/
theorem skipMembers_of_key {first : Bool} {s r₁ r₂ r₃ r₄ : Bytes} {t : String}
    (key : outcome? (nextKey first s) = some (some t, r₁))
    (between : outcome? (colon r₁) = some ((), r₂))
    (value : outcome? (skipValue r₂) = some ((), r₃))
    (others : outcome? (skipMembers false r₃) = some ((), r₄)) :
    outcome? (skipMembers first s) = some ((), r₄) := by
  rw [outcome?_nextKey] at key
  obtain ⟨⟨closed, u⟩, place, key⟩ := Option.bind_eq_some_iff.1 key
  rw [outcome?_skipMembers, place]
  cases closed with
  | true => cases key
  | false =>
    obtain ⟨q, quote, key⟩ := Option.bind_eq_some_iff.1 key
    obtain ⟨⟨t, r₁⟩, text, same⟩ := Option.map_eq_some_iff.1 key
    cases same
    rw [Option.bind_some, if_neg Bool.false_ne_true, outcome?_skipKey, quote, Option.bind_some,
      skipText_of_text text, Option.bind_some]
    show Option.bind (outcome? (colon (id r₁))) _ = _
    rw [between, Option.bind_some, value, Option.bind_some, others]

/-! ## Dictionaries -/

/-- What members say of which all values are of one kind. -/
def Value.entries? (means : Value → Option α) : Members → Option (List (String × α))
  | [] => some []
  | (key, v) :: ms => key.bind fun key => (means v).bind fun x =>
    (entries? means ms).map ((key, x) :: ·)

/-- What an object says of which all values are of one kind. -/
def Value.dictionary? (means : Value → Option α) : Value → Option (List (String × α))
  | .object ms => entries? means ms
  | _ => none

theorem outcome?_entries (read : Reader α) (first : Bool) (s : Bytes) :
    outcome? (entries read first s) = (outcome? (nextKey first s)).bind fun k =>
      match k.1 with
      | none => some ([], k.2)
      | some key => (outcome? (colon k.2)).bind fun c => (outcome? (read c.2)).bind fun x =>
        (outcome? (entries read false x.2)).map (Prod.map ((key, x.1) :: ·) id) := by
  rw [entries]
  refine outcome?_bind fun ⟨key, r, shorter⟩ => ?_
  cases key with
  | none => rfl
  | some key =>
    refine outcome?_bind fun c => outcome?_bind fun x => ?_
    show outcome? (entries read false x.rest >>= _) = _
    cases entries read false x.rest <;> rfl

theorem Lawful.entries_reads {read : Reader α} {means : Value → Option α} (law : Lawful read means)
    {first : Bool} {ms : Members} {cs ds : List Char} (h : Written (.members first ms) cs ds) :
    outcome? (entries read first (bytes cs)) =
      (Value.entries? means ms).map fun l => (l, bytes ds) := by
  induction ms generalizing first cs with
  | nil =>
    cases h with
    | objectEnd blanks =>
      rw [outcome?_entries, nextKey_of_end blanks]
      rfl
  | cons m ms ih =>
    cases h with
    | @member _ items v _ _ _ _ _ _ _ _ lead content colon behind written others =>
      rw [outcome?_entries, nextKey_of_lead lead content, Value.entries?]
      cases textOf items with
      | none => rfl
      | some key =>
        show Option.bind (outcome? (Json.colon _)) _ = _
        rw [colon_of_blanks colon, Option.bind_some, law.reads behind written, Option.bind_some]
        cases means v with
        | none => rfl
        | some x =>
          show Option.map _ (outcome? (entries read false _)) = _
          rw [ih others, Option.bind_some, Option.map_map, Option.map_map]
          rfl

theorem Lawful.entries_passes {read : Reader α} {means : Value → Option α} (law : Lawful read means)
    {first : Bool} {s r : Bytes} {l : List (String × α)}
    (read' : outcome? (entries read first s) = some (l, r)) :
    outcome? (skipMembers first s) = some ((), r) := by
  induction n : s.length using Nat.strongRecOn generalizing first s l with
  | ind n ih =>
    subst n
    rw [outcome?_entries] at read'
    obtain ⟨⟨key, r₁⟩, next, read'⟩ := Option.bind_eq_some_iff.1 read'
    cases key with
    | none =>
      cases read'
      exact skipMembers_of_end next
    | some key =>
      obtain ⟨⟨_, r₂⟩, between, read'⟩ := Option.bind_eq_some_iff.1 read'
      obtain ⟨⟨x, r₃⟩, value, read'⟩ := Option.bind_eq_some_iff.1 read'
      obtain ⟨⟨others, r₄⟩, behind, same⟩ := Option.map_eq_some_iff.1 read'
      cases same
      have h₁ : r₁.length < s.length := length_of_outcome? next
      have h₂ : r₂.length < r₁.length := length_of_outcome? between
      have h₃ : r₃.length < r₂.length := length_of_outcome? value
      exact skipMembers_of_key next between (law.passes value) (ih _ (by omega) behind rfl)

theorem outcome?_dictionary (read : Reader α) (s : Bytes) :
    outcome? (dictionary read s) = match skipBlank s with
      | [] => none
      | b :: r => if b = openBrace then outcome? (entries read true r) else none := by
  rw [dictionary]
  split
  · next eq => simp only [eq]; rfl
  · next b r eq =>
    simp only [eq]
    split
    · exact outcome?_from _ _
    · rfl

theorem Lawful.dictionary {read : Reader α} {means : Value → Option α} (law : Lawful read means) :
    Lawful (Json.dictionary read) (Value.dictionary? means) where
  reads {v bs cs ds} blanks h := by
    rw [outcome?_dictionary]
    cases v with
    | object ms =>
      cases h with
      | object h =>
        rw [skipBlank_cons blanks (by decide) (by decide)]
        exact law.entries_reads h
    | null | flag | number | list | text =>
      obtain ⟨b, r, eq, other⟩ := h.first blanks
      rw [eq]
      refine if_neg (other '\x7b' (by decide) ?_)
      simp [Value.Opens]
  passes {s r x} read' := by
    rw [outcome?_dictionary] at read'
    split at read'
    · cases read'
    · next b t eq =>
      split at read'
      · next brace =>
        subst brace
        rw [outcome?_skipValue eq]
        exact law.entries_passes read'
      · cases read'

end Dashboard.Json
