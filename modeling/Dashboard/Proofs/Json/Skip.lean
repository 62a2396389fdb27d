import Dashboard.Json.Skip
import Dashboard.Proofs.Json.Number
import Dashboard.Proofs.Json.Object

/-!
# Passing over a value

A value that nobody asks for is passed over, and only its grammar is checked.
This is what makes it the measure for all other readers: it takes just what the
grammar calls a value, whatever its depth.

## Main definitions

* `Json.Value.Opens` — the characters with which a value may begin.

## Main results

* `Json.Written.skips` — a value is passed over.
* `Json.exists_of_skipValue` — what is passed over is a value.
-/

namespace Dashboard.Json

open Utf8 (bytes bytes_cons_ascii bytes_eq_append bytes_eq_cons)

/-! ## How values begin -/

/-- Whether a value may begin with a character. -/
def Value.Opens : Value → Char → Prop
  | .null, c => c = 'n'
  | .flag b, c => b = true ∧ c = 't' ∨ b = false ∧ c = 'f'
  | .number, c => c = '-' ∨ c.isDigit
  | .text _, c => c = '"'
  | .list _, c => c = '['
  | .object _, c => c = '\x7b'

theorem IsNumber.opens {cs ds : List Char} (h : IsNumber cs ds) :
    ∃ c es, cs = c :: es ∧ (c = '-' ∨ c.isDigit) := by
  obtain ⟨a, b, _, minus, whole, _⟩ := h
  rcases minus with rfl | rfl
  · rcases whole with rfl | ⟨c, es, rfl, digit, _⟩
    · exact ⟨'0', b, rfl, .inr (by decide)⟩
    · exact ⟨c, es, rfl, .inr digit⟩
  · exact ⟨'-', a, rfl, .inl rfl⟩

theorem Written.opens {v : Value} {cs ds : List Char} (h : Written (.value v) cs ds) :
    ∃ c es, cs = c :: es ∧ v.Opens c := by
  cases h with
  | null => exact ⟨_, _, rfl, rfl⟩
  | true => exact ⟨_, _, rfl, .inl ⟨rfl, rfl⟩⟩
  | false => exact ⟨_, _, rfl, .inr ⟨rfl, rfl⟩⟩
  | number h => exact h.opens
  | text _ => exact ⟨_, _, rfl, rfl⟩
  | list _ => exact ⟨_, _, rfl, rfl⟩
  | object _ => exact ⟨_, _, rfl, rfl⟩

/-- A value begins with one byte, and neither with a blank nor with what closes
a list or an object. -/
theorem Value.Opens.token {v : Value} {c : Char} (h : v.Opens c) :
    c.toNat < 0x80 ∧ c ∉ blankChars ∧ c ≠ ']' ∧ c ≠ '\x7d' := by
  have digit {c : Char} (h : c.isDigit) :
      c.toNat < 0x80 ∧ c ∉ blankChars ∧ c ≠ ']' ∧ c ≠ '\x7d' := by
    refine ⟨ascii_of_isDigit h, fun blank => ?_, ?_, ?_⟩
    · simp only [blankChars, List.mem_cons, List.not_mem_nil, or_false] at blank
      rcases blank with rfl | rfl | rfl | rfl <;> cases h
    · rintro rfl
      cases h
    · rintro rfl
      cases h
  cases v with
  | null =>
    cases h
    decide
  | flag b =>
    obtain ⟨_, rfl⟩ | ⟨_, rfl⟩ := h
    · decide
    · decide
  | number =>
    obtain rfl | isDigit := h
    · decide
    · exact digit isDigit
  | text t =>
    cases h
    decide
  | list vs =>
    cases h
    decide
  | object ms =>
    cases h
    decide

/-- The first byte of a value is found behind the blanks in front of it. -/
theorem Written.skipBlank {v : Value} {bs cs ds : List Char} (h : Written (.value v) cs ds)
    (blanks : Blanks bs cs) : ∃ c es, cs = c :: es ∧ v.Opens c ∧
      Json.skipBlank (bytes bs) = UInt8.ofNat c.toNat :: bytes es := by
  obtain ⟨c, es, rfl, opens⟩ := h.opens
  exact ⟨c, es, rfl, opens, skipBlank_cons blanks opens.token.1 opens.token.2.1⟩

/-! ## What follows a value -/

theorem ends_of_blanks {cs ds : List Char} (blanks : Blanks cs ds) (ends : Ends ds) : Ends cs := by
  cases blanks with
  | none => exact ends
  | blank mem _ =>
    refine avoids_cons ?_
    simp only [blankChars, List.mem_cons, List.not_mem_nil, or_false] at mem
    rcases mem with rfl | rfl | rfl | rfl <;> (unfold GoesOn; decide)

theorem ends_cons {c : Char} {cs : List Char} (h : c = ',' ∨ Closes c) : Ends (c :: cs) := by
  refine avoids_cons ?_
  rcases h with rfl | rfl | rfl <;> (unfold GoesOn; decide)

theorem ends_of_lead {cs ds : List Char} (lead : Lead false cs ds) : Ends cs := by
  obtain ⟨es, blanks, _⟩ : ∃ es, Blanks cs (',' :: es) ∧ Blanks es ds := lead
  exact ends_of_blanks blanks (ends_cons (.inl rfl))

theorem ends_of_elements {vs : List Value} {cs ds : List Char}
    (h : Written (.elements false vs) cs ds) : Ends cs := by
  cases h with
  | listEnd blanks => exact ends_of_blanks blanks (ends_cons (.inr (.inl rfl)))
  | element lead _ _ => exact ends_of_lead lead

theorem ends_of_members {ms : Members} {cs ds : List Char}
    (h : Written (.members false ms) cs ds) : Ends cs := by
  cases h with
  | objectEnd blanks => exact ends_of_blanks blanks (ends_cons (.inr (.inr rfl)))
  | member lead _ _ _ _ _ => exact ends_of_lead lead

/-! ## The readers -/

theorem outcome?_skipKey (s : Bytes) :
    outcome? (skipKey s) = (after? '"' s).bind fun r =>
      (outcome? (skipText r)).bind fun t => outcome? (colon t.2) := by
  have opened : (openKey s).toOption.map Subtype.val = after? '"' s := by
    rw [openKey]
    split
    · next eq => rw [after?_nil eq]; rfl
    · next b r eq =>
      rw [after?_cons eq]
      show _ = if b = quoteByte then _ else _
      split <;> rfl
  rw [skipKey, ← opened]
  cases openKey s with
  | error f => rfl
  | ok r =>
    show outcome? (skipText r.1 >>= _) = (outcome? (skipText r.1)).bind _
    refine outcome?_bind fun t => ?_
    show outcome? (colon t.rest >>= _) = outcome? (colon t.rest)
    cases colon t.rest <;> rfl

theorem outcome?_skipValue {s r : Bytes} {b : UInt8} (eq : skipBlank s = b :: r) :
    outcome? (skipValue s) =
      if b = openBracket then outcome? (skipElements true r)
      else if b = openBrace then outcome? (skipMembers true r)
      else outcome? (skipScalar b r) := by
  rw [skipValue]
  split
  · next eq' => cases eq.symm.trans eq'
  · next b' r' eq' =>
    cases eq.symm.trans eq'
    simp only
    split
    · exact outcome?_from _ _
    split
    · exact outcome?_from _ _
    · exact outcome?_from _ _

theorem outcome?_skipValue_nil {s : Bytes} (eq : skipBlank s = []) :
    outcome? (skipValue s) = none := by
  rw [skipValue]
  split
  · rfl
  · next eq' => cases eq.symm.trans eq'

/-- Blanks in front of a value make no difference. -/
theorem outcome?_skipValue_congr {s t : Bytes} (eq : skipBlank s = skipBlank t) :
    outcome? (skipValue s) = outcome? (skipValue t) := by
  cases h : skipBlank t with
  | nil => rw [outcome?_skipValue_nil h, outcome?_skipValue_nil (eq.trans h)]
  | cons b r => rw [outcome?_skipValue h, outcome?_skipValue (eq.trans h)]

theorem outcome?_skipElements (first : Bool) (s : Bytes) :
    outcome? (skipElements first s) = (place? ']' first s).bind fun p =>
      if p.1 then some ((), p.2)
      else (outcome? (skipValue p.2)).bind fun v => outcome? (skipElements false v.2) := by
  have element (t : Bytes) (h : t.length ≤ s.length) : outcome? (do
      let element ← skipValue t
      let others ← skipElements false element.rest
      .ok ((element.then others).from s h)) =
      (outcome? (skipValue t)).bind fun v => outcome? (skipElements false v.2) := by
    refine outcome?_bind fun v => ?_
    show outcome? (skipElements false v.rest >>= _) = outcome? (skipElements false v.rest)
    cases skipElements false v.rest <;> rfl
  rw [skipElements]
  split
  · next eq => rw [place?_nil eq]; rfl
  · next b r eq =>
    rw [place?_cons eq]
    show _ = Option.bind (if b = closeBracket then _ else _) _
    split
    · rfl
    split
    · exact element (b :: r) (cons_length_of_skipBlank eq)
    split
    · exact element r (tail_length_le_of_skipBlank eq)
    · rfl

theorem outcome?_skipMembers (first : Bool) (s : Bytes) :
    outcome? (skipMembers first s) = (place? '\x7d' first s).bind fun p =>
      if p.1 then some ((), p.2)
      else (outcome? (skipKey p.2)).bind fun k => (outcome? (skipValue k.2)).bind fun v =>
        outcome? (skipMembers false v.2) := by
  have member (t : Bytes) (h : t.length ≤ s.length) : outcome? (do
      let key ← skipKey t
      let value ← skipValue key.rest
      let others ← skipMembers false value.rest
      .ok ((key.then (value.then others)).from s h)) =
      (outcome? (skipKey t)).bind fun k => (outcome? (skipValue k.2)).bind fun v =>
        outcome? (skipMembers false v.2) := by
    refine outcome?_bind fun k => outcome?_bind fun v => ?_
    show outcome? (skipMembers false v.rest >>= _) = outcome? (skipMembers false v.rest)
    cases skipMembers false v.rest <;> rfl
  rw [skipMembers]
  split
  · next eq => rw [place?_nil eq]; rfl
  · next b r eq =>
    rw [place?_cons eq]
    show _ = Option.bind (if b = closeBrace then _ else _) _
    split
    · rfl
    split
    · exact member (b :: r) (cons_length_of_skipBlank eq)
    split
    · exact member r (tail_length_le_of_skipBlank eq)
    · rfl

/-! ## A value is passed over -/

theorem skipScalar_number {cs ds : List Char} {b : UInt8} {r : Bytes} (h : IsNumber cs ds)
    (ends : Ends ds) (eq : bytes cs = b :: r) :
    outcome? (skipScalar b r) = some ((), bytes ds) := by
  have number : outcome? ((number .malformedNumber (b :: r)).map (Step.map fun _ => ())) =
      some ((), bytes ds) := by
    obtain ⟨n, read⟩ := exists_number .malformedNumber h ends
    rw [outcome?_map, ← eq, read]
    rfl
  obtain ⟨c, es, rfl, head⟩ := h.opens
  rcases head with rfl | digit
  · cases eq
    exact number
  · have ascii := ascii_of_isDigit digit
    cases (bytes_cons_ascii ascii es).symm.trans eq
    have isDigit : isDigit (UInt8.ofNat c.toNat) := by rwa [isDigit_ofNat ascii]
    have other {b : UInt8} (no : Json.isDigit b = false) : UInt8.ofNat c.toNat ≠ b := by
      intro same
      rw [← same, isDigit] at no
      cases no
    rw [skipScalar, if_neg (other rfl), if_neg (other rfl), if_neg (other rfl),
      if_pos (.inr isDigit)]
    exact number

/-- What passing over a part gives where it is written. -/
def Skips : Part → List Char → List Char → Prop
  | .value _, cs, ds =>
    ∀ bs, Blanks bs cs → Ends ds → outcome? (skipValue (bytes bs)) = some ((), bytes ds)
  | .elements first _, cs, ds => outcome? (skipElements first (bytes cs)) = some ((), bytes ds)
  | .members first _, cs, ds => outcome? (skipMembers first (bytes cs)) = some ((), bytes ds)

/-- A word, a number or a text behind blanks. -/
theorem skips_scalar {v : Value} {c : Char} {es ds : List Char} (opens : v.Opens c)
    (bracket : c ≠ '[') (brace : c ≠ '\x7b')
    (scalar : Ends ds →
      outcome? (skipScalar (UInt8.ofNat c.toNat) (bytes es)) = some ((), bytes ds)) :
    Skips (.value v) (c :: es) ds := by
  intro bs blanks ends
  obtain ⟨ascii, solid, _⟩ := opens.token
  rw [outcome?_skipValue (skipBlank_cons blanks ascii solid), if_neg, if_neg]
  · exact scalar ends
  · exact fun same => brace ((Utf8.ofNat_inj_of_ascii ascii (d := '\x7b') (by decide)).1 same)
  · exact fun same => bracket ((Utf8.ofNat_inj_of_ascii ascii (d := '[') (by decide)).1 same)

/-- Every part of a text is passed over where it is written. -/
theorem Written.skips {p : Part} {cs ds : List Char} (h : Written p cs ds) : Skips p cs ds := by
  induction h with
  | null =>
    exact skips_scalar (v := .null) rfl (by decide) (by decide) fun _ =>
      outcome?_word () nullWord_length_pos _
  | true =>
    exact skips_scalar (v := .flag Bool.true) (.inl ⟨rfl, rfl⟩) (by decide) (by decide) fun _ =>
      outcome?_word () trueWord_length_pos _
  | false =>
    exact skips_scalar (v := .flag Bool.false) (.inr ⟨rfl, rfl⟩) (by decide) (by decide) fun _ =>
      outcome?_word () falseWord_length_pos _
  | number isNumber =>
    obtain ⟨c, es, rfl, head⟩ := isNumber.opens
    have ascii := (Value.Opens.token (v := .number) head).1
    refine skips_scalar (v := .number) head ?_ ?_ fun ends =>
      skipScalar_number isNumber ends (bytes_cons_ascii ascii es)
    · rintro rfl
      rcases head with h | h <;> cases h
    · rintro rfl
      rcases head with h | h <;> cases h
  | text content =>
    refine skips_scalar (v := .text _) rfl (by decide) (by decide) fun _ => ?_
    exact (outcome?_from _ _).trans (outcome?_skipText content)
  | list _ ih =>
    intro bs blanks _
    rw [outcome?_skipValue (skipBlank_cons blanks (by decide) (by decide))]
    exact ih
  | object _ ih =>
    intro bs blanks _
    rw [outcome?_skipValue (skipBlank_cons blanks (by decide) (by decide))]
    exact ih
  | listEnd blanks =>
    show outcome? (skipElements _ _) = _
    rw [outcome?_skipElements, place?_of_blanks (.inl rfl) blanks]
    rfl
  | element lead written others ih ihs =>
    obtain ⟨c, es, rfl, opens⟩ := written.opens
    obtain ⟨ascii, solid, bracket, _⟩ := opens.token
    obtain ⟨fs, place, blanks⟩ := place?_of_lead (.inl rfl) lead ascii solid bracket
    show outcome? (skipElements _ _) = _
    rw [outcome?_skipElements, place, Option.bind_some, if_neg Bool.false_ne_true,
      ih fs blanks (ends_of_elements others)]
    exact ihs
  | objectEnd blanks =>
    show outcome? (skipMembers _ _) = _
    rw [outcome?_skipMembers, place?_of_blanks (.inr rfl) blanks]
    rfl
  | member lead content colon behind written others ih ihs =>
    obtain ⟨fs, place, blanks⟩ :=
      place?_of_lead (.inr rfl) lead (by decide) (by decide) (by decide)
    show outcome? (skipMembers _ _) = _
    rw [outcome?_skipMembers, place, Option.bind_some, if_neg Bool.false_ne_true, outcome?_skipKey,
      after?_of_blanks blanks (by decide) (by decide), Option.bind_some, outcome?_skipText content,
      Option.bind_some, outcome?_colon, after?_of_blanks colon (by decide) (by decide),
      Option.map_some, Option.bind_some, ih _ behind (ends_of_members others)]
    exact ihs

/-! ## What is passed over is a value -/

theorem exists_of_skipScalar {cs : List Char} {b : UInt8} {r left : Bytes} {x : Unit}
    (eq : bytes cs = b :: r) (read : outcome? (skipScalar b r) = some (x, left)) :
    ∃ v ds, Written (.value v) cs ds ∧ bytes ds = left := by
  rw [skipScalar] at read
  split at read
  · obtain ⟨_, same⟩ := exists_of_word read
    obtain ⟨ds, rfl, rest⟩ := bytes_eq_append (w := ['n', 'u', 'l', 'l']) (eq.trans same)
    exact ⟨.null, ds, .null, rest⟩
  split at read
  · obtain ⟨_, same⟩ := exists_of_word read
    obtain ⟨ds, rfl, rest⟩ := bytes_eq_append (w := ['t', 'r', 'u', 'e']) (eq.trans same)
    exact ⟨.flag true, ds, .true, rest⟩
  split at read
  · obtain ⟨_, same⟩ := exists_of_word read
    obtain ⟨ds, rfl, rest⟩ := bytes_eq_append (w := ['f', 'a', 'l', 's', 'e']) (eq.trans same)
    exact ⟨.flag false, ds, .false, rest⟩
  split at read
  · rw [outcome?_map, ← eq] at read
    obtain ⟨p, read, same⟩ := Option.map_eq_some_iff.1 read
    obtain ⟨ds, isNumber, rest⟩ := exists_of_number read
    cases same
    exact ⟨.number, ds, .number isNumber, rest⟩
  split at read
  · next quote =>
    obtain ⟨ds, rfl, rfl⟩ := bytes_eq_append (w := ['"']) (eq.trans (by rw [quote]; rfl))
    rw [outcome?_from] at read
    obtain ⟨items, es, content, rest⟩ := exists_of_skipText read
    exact ⟨_, es, .text content, rest⟩
  · cases read

theorem place?_length {close : Char} {first closed : Bool} {s r : Bytes}
    (found : place? close first s = some (closed, r)) : r.length ≤ s.length := by
  cases eq : skipBlank s with
  | nil =>
    rw [place?_nil eq] at found
    cases found
  | cons b t =>
    have := tail_length_le_of_skipBlank eq
    rw [place?_cons eq] at found
    split at found
    · cases found
      exact this
    split at found
    · cases found
      exact cons_length_of_skipBlank eq
    split at found
    · cases found
      exact this
    · cases found

theorem length_of_outcome? {α : Type} {s r : Bytes} {x : α} {step : Except Failure (Step s α)}
    (read : outcome? step = some (x, r)) : r.length < s.length :=
  (outcome?_eq_some.1 read).1

/-- Whether texts of at most `n` bytes are passed over only where they are
values. -/
def SoundUpTo (n : Nat) : Prop :=
  ∀ {cs : List Char} {x : Unit} {r : Bytes}, (bytes cs).length ≤ n →
    outcome? (skipValue (bytes cs)) = some (x, r) →
      ∃ ds v es, Blanks cs ds ∧ Written (.value v) ds es ∧ bytes es = r

theorem exists_of_skipElements {n : Nat} (values : SoundUpTo n) {first : Bool} {cs : List Char}
    {x : Unit} {r : Bytes} (bound : (bytes cs).length ≤ n)
    (read : outcome? (skipElements first (bytes cs)) = some (x, r)) :
    ∃ vs ds, Written (.elements first vs) cs ds ∧ bytes ds = r := by
  induction m : (bytes cs).length using Nat.strongRecOn generalizing first cs with
  | ind m ih =>
    subst m
    rw [outcome?_skipElements] at read
    obtain ⟨⟨closed, t⟩, place, read⟩ := Option.bind_eq_some_iff.1 read
    cases closed with
    | true =>
      obtain ⟨ds, blanks, rfl⟩ := exists_of_place (.inl rfl) place
      cases read
      exact ⟨[], ds, .listEnd blanks, rfl⟩
    | false =>
      have notLonger : t.length ≤ (bytes cs).length := place?_length place
      obtain ⟨es, rfl, lead⟩ := lead_of_place? place
      obtain ⟨⟨_, u⟩, value, read⟩ := Option.bind_eq_some_iff.1 read
      have shorter : u.length < (bytes es).length := length_of_outcome? value
      obtain ⟨ds, v, fs, blanks, written, rfl⟩ := values (Nat.le_trans notLonger bound) value
      obtain ⟨vs, gs, others, rest⟩ :=
        ih _ (Nat.lt_of_lt_of_le shorter notLonger) (by omega) read rfl
      exact ⟨v :: vs, gs, .element (lead ds blanks) written others, rest⟩

theorem exists_of_skipKey {cs : List Char} {x : Unit} {r : Bytes}
    (read : outcome? (skipKey (bytes cs)) = some (x, r)) :
    ∃ ds items es fs, Blanks cs ('"' :: ds) ∧ Content items ds es ∧ Blanks es (':' :: fs) ∧
      bytes fs = r := by
  rw [outcome?_skipKey] at read
  obtain ⟨t, quote, read⟩ := Option.bind_eq_some_iff.1 read
  obtain ⟨ds, blanks, rfl⟩ := exists_of_after? (by decide) quote
  obtain ⟨⟨_, u⟩, key, read⟩ := Option.bind_eq_some_iff.1 read
  obtain ⟨items, es, content, rfl⟩ := exists_of_skipText key
  rw [outcome?_colon] at read
  obtain ⟨left, colon, same⟩ := Option.map_eq_some_iff.1 read
  obtain ⟨fs, behind, rest⟩ := exists_of_after? (by decide) colon
  cases same
  exact ⟨ds, items, es, fs, blanks, content, behind, rest⟩

theorem exists_of_skipMembers {n : Nat} (values : SoundUpTo n) {first : Bool} {cs : List Char}
    {x : Unit} {r : Bytes} (bound : (bytes cs).length ≤ n)
    (read : outcome? (skipMembers first (bytes cs)) = some (x, r)) :
    ∃ ms ds, Written (.members first ms) cs ds ∧ bytes ds = r := by
  induction m : (bytes cs).length using Nat.strongRecOn generalizing first cs with
  | ind m ih =>
    subst m
    rw [outcome?_skipMembers] at read
    obtain ⟨⟨closed, t⟩, place, read⟩ := Option.bind_eq_some_iff.1 read
    cases closed with
    | true =>
      obtain ⟨ds, blanks, rfl⟩ := exists_of_place (.inr rfl) place
      cases read
      exact ⟨[], ds, .objectEnd blanks, rfl⟩
    | false =>
      have notLonger : t.length ≤ (bytes cs).length := place?_length place
      obtain ⟨es, rfl, lead⟩ := lead_of_place? place
      obtain ⟨⟨_, t⟩, key, read⟩ := Option.bind_eq_some_iff.1 read
      have shorter : t.length < (bytes es).length := length_of_outcome? key
      obtain ⟨ds, items, fs, gs, quote, content, colon, rfl⟩ := exists_of_skipKey key
      obtain ⟨⟨_, u⟩, value, read⟩ := Option.bind_eq_some_iff.1 read
      have shorter' : u.length < (bytes gs).length := length_of_outcome? value
      obtain ⟨hs, v, is, blanks, written, rfl⟩ := values (by omega) value
      obtain ⟨ms, js, others, rest⟩ := ih _ (by omega) (by omega) read rfl
      exact ⟨_, js, .member (lead _ quote) content colon blanks written others, rest⟩

/-- What is passed over is a value with blanks in front of it. -/
theorem exists_of_skipValue {cs : List Char} {x : Unit} {r : Bytes}
    (read : outcome? (skipValue (bytes cs)) = some (x, r)) :
    ∃ ds v es, Blanks cs ds ∧ Written (.value v) ds es ∧ bytes es = r := by
  suffices sound : ∀ n, SoundUpTo n from sound _ (Nat.le_refl _) read
  intro n
  induction n with
  | zero =>
    intro cs x r bound read
    exact absurd (length_of_outcome? read) (by omega)
  | succ n values =>
    intro cs x r bound read
    cases eq : skipBlank (bytes cs) with
    | nil =>
      rw [outcome?_skipValue_nil eq] at read
      cases read
    | cons b t =>
      have shorter := tail_length_of_skipBlank eq
      obtain ⟨ds, blanks, first⟩ := exists_blanks eq
      rw [outcome?_skipValue eq] at read
      split at read
      · next bracket =>
        obtain ⟨es, rfl, rfl⟩ := bytes_eq_append (w := ['[']) (first.trans (by rw [bracket]; rfl))
        obtain ⟨vs, fs, elements, rest⟩ := exists_of_skipElements values (by omega) read
        exact ⟨_, .list vs, fs, blanks, .list elements, rest⟩
      split at read
      · next brace =>
        obtain ⟨es, rfl, rfl⟩ := bytes_eq_append (w := ['\x7b']) (first.trans (by rw [brace]; rfl))
        obtain ⟨ms, fs, members, rest⟩ := exists_of_skipMembers values (by omega) read
        exact ⟨_, .object ms, fs, blanks, .object members, rest⟩
      · obtain ⟨v, es, written, rest⟩ := exists_of_skipScalar first read
        exact ⟨ds, v, es, blanks, written, rest⟩

end Dashboard.Json
