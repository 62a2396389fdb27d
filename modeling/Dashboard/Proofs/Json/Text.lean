import Dashboard.Proofs.Json.Outcome

/-!
# Reading strings

A string that is wanted and one that is passed over are read under different
rules: only the first must say a text.  Both readers are compared with the one
production for strings here, and whatever the strict reader takes is shown to be
what the lax one takes.

## Main results

* `Json.outcome?_skipText`, `Json.exists_of_skipText` — passing over a string is
  the production for strings.
* `Json.outcome?_text` — the text that is read is the one that is written, and
  there is none if a surrogate has no partner.
* `Json.skipText_of_text` — what is read is taken as it is when it is passed over.
* `Json.content_quote` — the written form of a text says the text.
-/

namespace Dashboard.Json

open Utf8 (bytes bytes_cons bytes_cons_ascii bytes_eq_append bytes_eq_cons)

/-! ## Escapes -/

theorem ascii_of_hexValue {c : Char} {n : Nat} (value : hexValue? c = some n) : c.toNat < 0x80 := by
  simp only [hexValue?, Char.le_def, UInt32.le_iff_toNat_le] at value
  have : c.toNat = c.val.toNat := rfl
  split at value
  · next digit => exact Nat.lt_of_le_of_lt digit.2 (by decide)
  split at value
  · next upper => exact Nat.lt_of_le_of_lt upper.2 (by decide)
  split at value
  · next lower => exact Nat.lt_of_le_of_lt lower.2 (by decide)
  · cases value

theorem hexDigit?_ofNat {c : Char} (ascii : c.toNat < 0x80) :
    hexDigit? (UInt8.ofNat c.toNat) = hexValue? c :=
  Utf8.forall_ascii (P := fun c => hexDigit? (UInt8.ofNat c.toNat) = hexValue? c)
    (by decide +kernel) ascii

theorem ascii_of_hexDigit {b : UInt8} {n : Nat} (value : hexDigit? b = some n) : b < 0x80 := by
  rw [hexDigit?] at value
  simp only [UInt8.le_iff_toNat_le] at value
  rw [UInt8.lt_iff_toNat_lt]
  split at value
  · next digit => exact Nat.lt_of_le_of_lt digit.2 (by decide)
  split at value
  · next upper => exact Nat.lt_of_le_of_lt upper.2 (by decide)
  split at value
  · next lower => exact Nat.lt_of_le_of_lt lower.2 (by decide)
  · cases value

theorem hexUnit?_eq {a b c d : Char} {i j k l : Nat} (ha : hexValue? a = some i)
    (hb : hexValue? b = some j) (hc : hexValue? c = some k) (hd : hexValue? d = some l) :
    hexUnit? [a, b, c, d] = some (((i * 16 + j) * 16 + k) * 16 + l) := by
  simp only [hexUnit?, List.foldlM_cons, List.foldlM_nil, ha, hb, hc, hd, Option.map_some]
  show some _ = some _
  congr 1
  omega

/-- The value of four digits is that of their bytes. -/
theorem exists_of_hexUnit {a b c d : Char} {n : Nat} (unit : hexUnit? [a, b, c, d] = some n) :
    ∃ i j k l, hexValue? a = some i ∧ hexValue? b = some j ∧ hexValue? c = some k ∧
      hexValue? d = some l ∧ n = ((i * 16 + j) * 16 + k) * 16 + l := by
  cases ha : hexValue? a with
  | none => simp [hexUnit?, ha] at unit
  | some i =>
    cases hb : hexValue? b with
    | none => simp [hexUnit?, ha, hb] at unit
    | some j =>
      cases hc : hexValue? c with
      | none => simp [hexUnit?, ha, hb, hc] at unit
      | some k =>
        cases hd : hexValue? d with
        | none => simp [hexUnit?, ha, hb, hc, hd] at unit
        | some l =>
          rw [hexUnit?_eq ha hb hc hd] at unit
          exact ⟨i, j, k, l, rfl, rfl, rfl, rfl, (Option.some.inj unit).symm⟩

theorem outcome?_quad {h₁ h₂ h₃ h₄ : Char} {n : Nat} (unit : hexUnit? [h₁, h₂, h₃, h₄] = some n)
    (cs : List Char) :
    outcome? (quad (bytes (h₁ :: h₂ :: h₃ :: h₄ :: cs))) = some (n, bytes cs) := by
  obtain ⟨i, j, k, l, h₁, h₂, h₃, h₄, rfl⟩ := exists_of_hexUnit unit
  have a₁ := ascii_of_hexValue h₁
  have a₂ := ascii_of_hexValue h₂
  have a₃ := ascii_of_hexValue h₃
  have a₄ := ascii_of_hexValue h₄
  rw [bytes_cons_ascii a₁, bytes_cons_ascii a₂, bytes_cons_ascii a₃, bytes_cons_ascii a₄, quad]
  simp only [hexQuad?, hexDigit?_ofNat, a₁, a₂, a₃, a₄, h₁, h₂, h₃, h₄]
  rfl

theorem exists_of_quad {cs : List Char} {n : Nat} {r : Bytes}
    (read : outcome? (quad (bytes cs)) = some (n, r)) :
    ∃ h₁ h₂ h₃ h₄ ds, cs = h₁ :: h₂ :: h₃ :: h₄ :: ds ∧ hexUnit? [h₁, h₂, h₃, h₄] = some n ∧
      bytes ds = r := by
  rcases eq : bytes cs with _ | ⟨a, _ | ⟨b, _ | ⟨c, _ | ⟨d, t⟩⟩⟩⟩
  case cons.cons.cons.cons =>
    rw [eq, quad] at read
    split at read
    · next m value =>
      cases read
      simp only [hexQuad?, Option.bind_eq_bind, Option.bind_eq_some_iff, Option.some.injEq] at value
      obtain ⟨i, hi, j, hj, k, hk, l, hl, rfl⟩ := value
      obtain ⟨h₁, cs, rfl, a₁, rfl, eq₁⟩ := bytes_eq_cons eq (ascii_of_hexDigit hi)
      obtain ⟨h₂, cs, rfl, a₂, rfl, eq₂⟩ := bytes_eq_cons eq₁ (ascii_of_hexDigit hj)
      obtain ⟨h₃, cs, rfl, a₃, rfl, eq₃⟩ := bytes_eq_cons eq₂ (ascii_of_hexDigit hk)
      obtain ⟨h₄, cs, rfl, a₄, rfl, rest⟩ := bytes_eq_cons eq₃ (ascii_of_hexDigit hl)
      rw [hexDigit?_ofNat a₁] at hi
      rw [hexDigit?_ofNat a₂] at hj
      rw [hexDigit?_ofNat a₃] at hk
      rw [hexDigit?_ofNat a₄] at hl
      exact ⟨h₁, h₂, h₃, h₄, cs, rfl, hexUnit?_eq hi hj hk hl, rest⟩
    · cases read
  all_goals
    rw [eq] at read
    cases read

theorem letterEscapes_mem {e c : Char} (mem : (e, c) ∈ letterEscapes) :
    e.toNat < 0x80 ∧ c.toNat < 0x80 ∧ UInt8.ofNat e.toNat ≠ unicodeLetter ∧
      simpleEscape? (UInt8.ofNat e.toNat) = some (UInt8.ofNat c.toNat) := by
  have all : ∀ p ∈ letterEscapes, p.1.toNat < 0x80 ∧ p.2.toNat < 0x80 ∧
      UInt8.ofNat p.1.toNat ≠ unicodeLetter ∧
      simpleEscape? (UInt8.ofNat p.1.toNat) = some (UInt8.ofNat p.2.toNat) := by
    decide +kernel
  exact all (e, c) mem

theorem exists_letter {b c : UInt8} (escape : simpleEscape? b = some c) :
    ∃ p ∈ letterEscapes, UInt8.ofNat p.1.toNat = b ∧ UInt8.ofNat p.2.toNat = c := by
  have all : ∀ n < 256, (simpleEscape? (UInt8.ofNat n)).all fun c =>
      letterEscapes.any fun p =>
        UInt8.ofNat p.1.toNat == UInt8.ofNat n && UInt8.ofNat p.2.toNat == c := by
    decide +kernel
  have := all b.toNat b.toNat_lt
  rw [UInt8.ofNat_toNat, escape] at this
  simpa using this

/-! ## Passing over a string -/

theorem outcome?_skipText_close (r : Bytes) :
    outcome? (skipText (quoteByte :: r)) = some ((), r) := by
  rw [skipText, if_pos rfl]
  rfl

theorem outcome?_skipText_escape (r : Bytes) :
    outcome? (skipText (backslash :: r)) =
      (outcome? (skipEscape r)).bind fun p => outcome? (skipText p.2) := by
  rw [skipText, if_neg (by decide), if_pos rfl]
  refine outcome?_bind fun c => ?_
  show outcome? (skipText c.rest >>= _) = _
  cases skipText c.rest <;> rfl

/-- Whether a byte stands for itself between quotes. -/
def IsPlain (b : UInt8) : Prop := b ≠ quoteByte ∧ b ≠ backslash ∧ ¬ b < 0x20

theorem outcome?_skipText_plain {b : UInt8} (plain : IsPlain b) (r : Bytes) :
    outcome? (skipText (b :: r)) = outcome? (skipText r) := by
  rw [skipText, if_neg plain.1, if_neg plain.2.1, if_neg plain.2.2, outcome?_from]

theorem outcome?_skipText_append {bs : Bytes} (plain : ∀ b ∈ bs, IsPlain b) (r : Bytes) :
    outcome? (skipText (bs ++ r)) = outcome? (skipText r) := by
  induction bs with
  | nil => rfl
  | cons b bs ih =>
    rw [List.cons_append, outcome?_skipText_plain (plain b List.mem_cons_self)]
    exact ih fun x mem => plain x (List.mem_cons_of_mem b mem)

/-- All bytes of a character that stands for itself do. -/
theorem plain_encodeChar {c : Char} (low : 0x20 ≤ c.toNat) (quote : c ≠ '"') (slash : c ≠ '\\') :
    ∀ b ∈ String.utf8EncodeChar c, IsPlain b := by
  by_cases ascii : c.toNat < 0x80
  · rw [Utf8.encodeChar_ascii ascii]
    intro b mem
    cases List.mem_singleton.1 mem
    refine ⟨fun eq => quote ?_, fun eq => slash ?_, fun lt => ?_⟩
    · exact (Utf8.ofNat_inj_of_ascii ascii (d := '"') (by decide)).1 eq
    · exact (Utf8.ofNat_inj_of_ascii ascii (d := '\\') (by decide)).1 eq
    · rw [UInt8.lt_iff_toNat_lt, Utf8.toNat_ofNat_ascii ascii] at lt
      exact absurd low (Nat.not_le.2 lt)
  · intro b mem
    have high := Utf8.le_of_mem_encodeChar (Nat.le_of_not_lt ascii) mem
    rw [UInt8.le_iff_toNat_le] at high
    refine ⟨?_, ?_, fun lt => ?_⟩
    · rintro rfl
      exact absurd high (by decide)
    · rintro rfl
      exact absurd high (by decide)
    · rw [UInt8.lt_iff_toNat_lt] at lt
      exact absurd (Nat.lt_of_lt_of_le lt (by decide)) (Nat.not_lt.2 high)

theorem outcome?_skipEscape_unit (r : Bytes) :
    outcome? (skipEscape (unicodeLetter :: r)) = (outcome? (quad r)).map fun p => ((), p.2) := by
  rw [skipEscape, if_pos rfl]
  cases quad r <;> rfl

theorem outcome?_skipEscape_letter {b c : UInt8} (ne : b ≠ unicodeLetter)
    (escape : simpleEscape? b = some c) (r : Bytes) :
    outcome? (skipEscape (b :: r)) = some ((), r) := by
  rw [skipEscape, if_neg ne, if_pos (by rw [escape]; rfl)]
  rfl

theorem exists_of_skipEscape {cs : List Char} {x : Unit} {r : Bytes}
    (read : outcome? (skipEscape (bytes cs)) = some (x, r)) :
    (∃ e c ds, cs = e :: ds ∧ (e, c) ∈ letterEscapes ∧ bytes ds = r) ∨
      ∃ h₁ h₂ h₃ h₄ n ds, cs = 'u' :: h₁ :: h₂ :: h₃ :: h₄ :: ds ∧
        hexUnit? [h₁, h₂, h₃, h₄] = some n ∧ bytes ds = r := by
  cases eq : bytes cs with
  | nil => rw [eq] at read; cases read
  | cons b t =>
    rw [eq] at read
    by_cases unit : b = unicodeLetter
    · subst unit
      obtain ⟨ds, rfl, rfl⟩ := bytes_eq_append (w := ['u']) eq
      rw [outcome?_skipEscape_unit] at read
      obtain ⟨⟨n, left⟩, quad, same⟩ := Option.map_eq_some_iff.1 read
      cases same
      obtain ⟨h₁, h₂, h₃, h₄, es, rfl, value, rest⟩ := exists_of_quad quad
      exact .inr ⟨h₁, h₂, h₃, h₄, n, es, rfl, value, rest⟩
    · rw [skipEscape, if_neg unit] at read
      split at read
      · next isSome =>
        obtain ⟨c, escape⟩ := Option.isSome_iff_exists.1 isSome
        obtain ⟨⟨e, c⟩, mem, rfl, rfl⟩ := exists_letter escape
        have ascii := (letterEscapes_mem mem).1
        obtain ⟨ds, rfl, rest⟩ := bytes_eq_append (w := [e]) (eq.trans (by
          rw [bytes_cons_ascii ascii]; rfl))
        cases read
        exact .inl ⟨e, c, ds, rfl, mem, rest⟩
      · cases read

/-- A string is passed over. -/
theorem outcome?_skipText {items : List Item} {cs ds : List Char} (content : Content items cs ds) :
    outcome? (skipText (bytes cs)) = some ((), bytes ds) := by
  induction content with
  | close => exact outcome?_skipText_close _
  | plain low quote slash _ ih =>
    rw [bytes_cons, outcome?_skipText_append (plain_encodeChar low quote slash), ih]
  | @letter e c items cs ds mem _ ih =>
    obtain ⟨ascii, _, ne, escape⟩ := letterEscapes_mem mem
    show outcome? (skipText (backslash :: bytes (e :: cs))) = _
    rw [outcome?_skipText_escape, bytes_cons_ascii ascii, outcome?_skipEscape_letter ne escape]
    exact ih
  | @unit h₁ h₂ h₃ h₄ n items cs ds unit _ ih =>
    show outcome? (skipText (backslash :: unicodeLetter :: bytes (h₁ :: h₂ :: h₃ :: h₄ :: cs))) = _
    rw [outcome?_skipText_escape, outcome?_skipEscape_unit, outcome?_quad unit]
    exact ih

/-- What is passed over is a string. -/
theorem exists_of_skipText {cs : List Char} {x : Unit} {r : Bytes}
    (read : outcome? (skipText (bytes cs)) = some (x, r)) :
    ∃ items ds, Content items cs ds ∧ bytes ds = r := by
  induction n : cs.length using Nat.strongRecOn generalizing cs with
  | ind n ih =>
    subst n
    cases cs with
    | nil => rw [Utf8.bytes_nil, skipText] at read; cases read
    | cons c cs =>
      by_cases quote : c = '"'
      · subst quote
        rw [show bytes ('"' :: cs) = quoteByte :: bytes cs from rfl,
          outcome?_skipText_close] at read
        cases read
        exact ⟨[], cs, .close, rfl⟩
      by_cases slash : c = '\\'
      · subst slash
        rw [show bytes ('\\' :: cs) = backslash :: bytes cs from rfl,
          outcome?_skipText_escape] at read
        obtain ⟨⟨_, left⟩, escape, read⟩ := Option.bind_eq_some_iff.1 read
        rcases exists_of_skipEscape escape with ⟨e, c, ds, rfl, mem, rfl⟩ |
          ⟨h₁, h₂, h₃, h₄, n, ds, rfl, unit, rfl⟩
        · obtain ⟨items, es, content, rest⟩ := ih ds.length (by simp only [List.length_cons]; omega)
            read rfl
          exact ⟨_, es, .letter mem content, rest⟩
        · obtain ⟨items, es, content, rest⟩ := ih ds.length (by simp only [List.length_cons]; omega)
            read rfl
          exact ⟨_, es, .unit unit content, rest⟩
      by_cases low : 0x20 ≤ c.toNat
      · rw [bytes_cons, outcome?_skipText_append (plain_encodeChar low quote slash)] at read
        obtain ⟨items, ds, content, rest⟩ := ih cs.length (Nat.lt_succ_self _) read rfl
        exact ⟨_, ds, .plain low quote slash content, rest⟩
      · have ascii : c.toNat < 0x80 := by omega
        rw [bytes_cons_ascii ascii, skipText, if_neg, if_neg, if_pos] at read
        · cases read
        · rw [UInt8.lt_iff_toNat_lt, Utf8.toNat_ofNat_ascii ascii]
          exact Nat.lt_of_not_le low
        · exact fun eq => slash ((Utf8.ofNat_inj_of_ascii ascii (d := '\\') (by decide)).1 eq)
        · exact fun eq => quote ((Utf8.ofNat_inj_of_ascii ascii (d := '"') (by decide)).1 eq)

/-! ## Reading a string -/

theorem outcome?_content_close (r : Bytes) :
    outcome? (content (quoteByte :: r)) = some ([], r) := by
  rw [content, if_pos rfl]
  rfl

theorem outcome?_content_escape (r : Bytes) :
    outcome? (content (backslash :: r)) = (outcome? (escape r)).bind fun p =>
      (outcome? (content p.2)).map (Prod.map (p.1 ++ ·) id) := by
  rw [content, if_neg (by decide), if_pos rfl]
  refine outcome?_bind fun c => ?_
  show outcome? (content c.rest >>= _) = _
  cases content c.rest <;> rfl

theorem outcome?_content_plain {b : UInt8} (plain : IsPlain b) (r : Bytes) :
    outcome? (content (b :: r)) = (outcome? (content r)).map (Prod.map (b :: ·) id) := by
  rw [content, if_neg plain.1, if_neg plain.2.1, if_neg plain.2.2]
  show outcome? (content r >>= _) = _
  cases content r <;> rfl

theorem outcome?_content_append {bs : Bytes} (plain : ∀ b ∈ bs, IsPlain b) (r : Bytes) :
    outcome? (content (bs ++ r)) = (outcome? (content r)).map (Prod.map (bs ++ ·) id) := by
  induction bs with
  | nil => exact (Option.map_id' ..).symm
  | cons b bs ih =>
    rw [List.cons_append, outcome?_content_plain (plain b List.mem_cons_self),
      ih fun x mem => plain x (List.mem_cons_of_mem b mem), Option.map_map]
    rfl

/-- What must follow the unit of a leading surrogate. -/
def secondHalf? (n : Nat) : Bytes → Option (Bytes × Bytes)
  | b :: c :: r =>
    if b = backslash ∧ c = unicodeLetter then
      (outcome? (quad r)).bind fun p =>
        if isTrailing p.1 then
          some (String.utf8EncodeChar (Char.ofNat (pairValue n p.1)), p.2)
        else none
    else none
  | _ => none

theorem outcome?_pairByte (expected b : UInt8) (r : Bytes) :
    outcome? (pairByte expected (b :: r)) = if b = expected then some ((), r) else none := by
  rw [pairByte]
  split <;> rfl

theorem outcome?_unicodeEscape (s : Bytes) :
    outcome? (unicodeEscape s) = (outcome? (quad s)).bind fun p =>
      if isTrailing p.1 then none
      else if isLeading p.1 then secondHalf? p.1 p.2
      else some (String.utf8EncodeChar (Char.ofNat p.1), p.2) := by
  rw [unicodeEscape]
  refine outcome?_bind fun ⟨n, r, shorter⟩ => ?_
  simp only
  split
  · rfl
  split
  · refine Eq.trans (b := (outcome? (pairByte backslash r)).bind fun p =>
      (outcome? (pairByte unicodeLetter p.2)).bind fun q => (outcome? (quad q.2)).bind fun m =>
        if isTrailing m.1 then
          some (String.utf8EncodeChar (Char.ofNat (pairValue n m.1)), m.2)
        else none) ?_ ?_
    · refine outcome?_bind fun _ => outcome?_bind fun _ => outcome?_bind fun ⟨m, u, _⟩ => ?_
      simp only
      split
      · rw [outcome?]
      · rw [outcome?]
    · rcases r with _ | ⟨b, _ | ⟨c, r⟩⟩
      · rfl
      · rw [outcome?_pairByte]
        split <;> rfl
      · rw [outcome?_pairByte, secondHalf?]
        by_cases slash : b = backslash
        · rw [if_pos slash, Option.bind_some, outcome?_pairByte]
          by_cases letter : c = unicodeLetter
          · rw [if_pos letter, if_pos ⟨slash, letter⟩, Option.bind_some]
          · rw [if_neg letter, if_neg fun both => letter both.2, Option.bind_none]
        · rw [if_neg slash, if_neg fun both => slash both.1, Option.bind_none]
  · rfl

theorem outcome?_escape_letter {b c : UInt8} (ne : b ≠ unicodeLetter)
    (isEscape : simpleEscape? b = some c) (r : Bytes) :
    outcome? (escape (b :: r)) = some ([c], r) := by
  rw [escape, if_neg ne, isEscape]
  rfl

theorem outcome?_escape_unit (r : Bytes) :
    outcome? (escape (unicodeLetter :: r)) = outcome? (unicodeEscape r) := by
  rw [escape, if_pos rfl, outcome?_from]

/-- A string whose first unit is no trailing surrogate. -/
theorem secondHalf?_eq_none {n : Nat} {items : List Item} {cs ds : List Char}
    (content : Content items cs ds)
    (alone : ∀ m others, items = .unit m :: others → ¬ isTrailing m) :
    secondHalf? n (bytes cs) = none := by
  have other : ∀ b r, b ≠ backslash → secondHalf? n (b :: r) = none := by
    intro b r ne
    rcases r with _ | ⟨c, r⟩
    · rfl
    · rw [secondHalf?, if_neg fun both => ne both.1]
  cases content with
  | close => exact other _ _ (by decide)
  | @plain c _ cs _ low quote slash _ =>
    obtain ⟨b, bs, eq⟩ := List.exists_cons_of_ne_nil (String.utf8EncodeChar_ne_nil (c := c))
    have plain := plain_encodeChar low quote slash b (by rw [eq]; exact List.mem_cons_self)
    rw [bytes_cons, eq]
    exact other b _ plain.2.1
  | @letter e _ _ cs _ mem _ =>
    obtain ⟨ascii, _, ne, _⟩ := letterEscapes_mem mem
    show secondHalf? n (backslash :: bytes (e :: cs)) = none
    rw [bytes_cons_ascii ascii, secondHalf?, if_neg fun both => ne both.2]
  | @unit h₁ h₂ h₃ h₄ m items cs _ unit _ =>
    show secondHalf? n (backslash :: unicodeLetter :: bytes (h₁ :: h₂ :: h₃ :: h₄ :: cs)) = none
    rw [secondHalf?, if_pos ⟨rfl, rfl⟩, outcome?_quad unit, Option.bind_some,
      if_neg (alone m items rfl)]

theorem secondHalf?_unit {n m : Nat} {h₁ h₂ h₃ h₄ : Char} {cs : List Char}
    (unit : hexUnit? [h₁, h₂, h₃, h₄] = some m) (trailing : isTrailing m) :
    secondHalf? n (bytes ('\\' :: 'u' :: h₁ :: h₂ :: h₃ :: h₄ :: cs)) =
      some (String.utf8EncodeChar (Char.ofNat (pairValue n m)), bytes cs) := by
  show secondHalf? n (backslash :: unicodeLetter :: bytes (h₁ :: h₂ :: h₃ :: h₄ :: cs)) = _
  rw [secondHalf?, if_pos ⟨rfl, rfl⟩, outcome?_quad unit, Option.bind_some, if_pos trailing]

/-- The unit of an escape, and what follows it. -/
theorem outcome?_content_unit {n : Nat} {h₁ h₂ h₃ h₄ : Char} {cs : List Char}
    (unit : hexUnit? [h₁, h₂, h₃, h₄] = some n) :
    outcome? (content (bytes ('\\' :: 'u' :: h₁ :: h₂ :: h₃ :: h₄ :: cs))) =
      (if isTrailing n then none
        else if isLeading n then secondHalf? n (bytes cs)
        else some (String.utf8EncodeChar (Char.ofNat n), bytes cs)).bind fun p =>
          (outcome? (content p.2)).map (Prod.map (p.1 ++ ·) id) := by
  show outcome? (content (backslash :: unicodeLetter :: bytes (h₁ :: h₂ :: h₃ :: h₄ :: cs))) = _
  rw [outcome?_content_escape, outcome?_escape_unit, outcome?_unicodeEscape, outcome?_quad unit,
    Option.bind_some]

/-! ### What items say -/

section Items

variable {n m : Nat} {items : List Item}

theorem spelledOut_trailing (trailing : isTrailing n) : spelledOut (.unit n :: items) = none := by
  rcases items with _ | ⟨_ | _, _⟩ <;> simp only [spelledOut, trailing, ↓reduceIte]

theorem spelledOut_pair (notTrailing : ¬ isTrailing n) (leading : isLeading n)
    (trailing : isTrailing m) : spelledOut (.unit n :: .unit m :: items) =
      (spelledOut items).map (Char.ofNat (pairValue n m) :: ·) := by
  rw [spelledOut, if_neg notTrailing, if_pos leading, if_pos trailing]

theorem spelledOut_alone (leading : isLeading n)
    (alone : ∀ m others, items = .unit m :: others → ¬ isTrailing m) :
    spelledOut (.unit n :: items) = none := by
  rcases items with _ | ⟨_ | m, items⟩
  · simp only [spelledOut, leading, ↓reduceIte, ite_self]
  · simp only [spelledOut, leading, ↓reduceIte, ite_self]
  · simp only [spelledOut, leading, alone m items rfl, ↓reduceIte, ite_self, Bool.false_eq_true]

theorem spelledOut_unit (notTrailing : ¬ isTrailing n) (notLeading : ¬ isLeading n) :
    spelledOut (.unit n :: items) = (spelledOut items).map (Char.ofNat n :: ·) := by
  rcases items with _ | ⟨_ | _, _⟩ <;>
    simp only [spelledOut, notTrailing, notLeading, ↓reduceIte, Bool.false_eq_true]

end Items

/-- A character in front of those that are read. -/
theorem prepend_bytes (c : Char) (ds : List Char) (o : Option (List Char)) :
    (o.map fun u => (bytes u, bytes ds)).map (Prod.map (String.utf8EncodeChar c ++ ·) id) =
      (o.map (c :: ·)).map fun u => (bytes u, bytes ds) := by
  cases o <;> rfl

/-- A leading surrogate that stands alone is not read, and says nothing. -/
theorem outcome?_content_alone {n : Nat} {h₁ h₂ h₃ h₄ : Char} {items : List Item}
    {cs ds : List Char} (unit : hexUnit? [h₁, h₂, h₃, h₄] = some n) (h : Content items cs ds)
    (notTrailing : ¬ isTrailing n) (leading : isLeading n)
    (alone : ∀ m others, items = .unit m :: others → ¬ isTrailing m) :
    outcome? (content (bytes ('\\' :: 'u' :: h₁ :: h₂ :: h₃ :: h₄ :: cs))) =
      (spelledOut (.unit n :: items)).map fun u => (bytes u, bytes ds) := by
  rw [spelledOut_alone leading alone, outcome?_content_unit unit, if_neg notTrailing,
    if_pos leading, secondHalf?_eq_none h alone]
  rfl

/-- The bytes that are read are those of the characters that the items say. -/
theorem outcome?_content {items : List Item} {cs ds : List Char} (h : Content items cs ds) :
    outcome? (content (bytes cs)) = (spelledOut items).map fun u => (bytes u, bytes ds) := by
  induction items using spelledOut.induct generalizing cs with
  | case1 =>
    cases h
    exact outcome?_content_close _
  | case2 c items ih =>
    rw [spelledOut, ← prepend_bytes]
    cases h with
    | plain low quote slash h =>
      rw [bytes_cons, outcome?_content_append (plain_encodeChar low quote slash), ih h]
    | @letter e _ _ cs _ mem h =>
      obtain ⟨ascii, small, ne, escape⟩ := letterEscapes_mem mem
      show outcome? (content (backslash :: bytes (e :: cs))) = _
      rw [outcome?_content_escape, bytes_cons_ascii ascii, outcome?_escape_letter ne escape,
        Option.bind_some, ih h, Utf8.encodeChar_ascii small]
  | case3 n items trailing =>
    cases h with
    | unit unit h =>
      rw [spelledOut_trailing trailing, outcome?_content_unit unit, if_pos trailing]
      rfl
  | case4 n notTrailing leading m items trailing ih =>
    cases h with
    | unit unit h =>
      cases h with
      | unit unit' h =>
        rw [spelledOut_pair notTrailing leading trailing, outcome?_content_unit unit,
          if_neg notTrailing, if_pos leading, secondHalf?_unit unit' trailing, Option.bind_some,
          ih h, prepend_bytes]
  | case5 n notTrailing leading m items alone =>
    cases h with
    | unit unit h =>
      refine outcome?_content_alone unit h notTrailing leading ?_
      rintro k others ⟨⟩
      exact alone
  | case6 n items notTrailing leading other =>
    cases h with
    | unit unit h =>
      exact outcome?_content_alone unit h notTrailing leading fun k others eq =>
        absurd eq (other k others)
  | case7 n items notTrailing notLeading ih =>
    cases h with
    | unit unit h =>
      rw [spelledOut_unit notTrailing notLeading, outcome?_content_unit unit, if_neg notTrailing,
        if_neg notLeading, Option.bind_some, ih h, prepend_bytes]

theorem outcome?_text_eq (s : Bytes) :
    outcome? (text s) = (outcome? (content s)).bind fun p =>
      (Utf8.decode? p.1).map fun t => (t, p.2) := by
  rw [text]
  refine outcome?_bind fun ⟨bs, r, shorter⟩ => ?_
  simp only
  split
  · next t eq => rw [eq]; rfl
  · next eq => rw [eq]; rfl

/-- The text that is read is the one that the items say. -/
theorem outcome?_text {items : List Item} {cs ds : List Char} (h : Content items cs ds) :
    outcome? (text (bytes cs)) = (textOf items).map fun t => (t, bytes ds) := by
  rw [outcome?_text_eq, outcome?_content h, textOf]
  cases spelledOut items with
  | none => rfl
  | some u =>
    show (Utf8.decode? (bytes u)).map _ = _
    rw [Utf8.decode?_bytes]
    rfl

/-! ### What is read and what is passed over -/

/-- A second half that is read would have been passed over. -/
theorem skipText_of_secondHalf {n : Nat} {r left : Bytes} {x : Bytes}
    (read : secondHalf? n r = some (x, left)) :
    outcome? (skipText r) = outcome? (skipText left) := by
  rcases r with _ | ⟨b, _ | ⟨c, r⟩⟩
  · cases read
  · cases read
  · rw [secondHalf?] at read
    split at read
    · next both =>
      obtain ⟨⟨m, r'⟩, second, read⟩ := Option.bind_eq_some_iff.1 read
      rw [both.1, both.2, outcome?_skipText_escape, outcome?_skipEscape_unit, second]
      simp only at read
      split at read
      · obtain ⟨_, rfl⟩ := Prod.mk.inj (Option.some.inj read)
        rfl
      · cases read
    · cases read

theorem skipText_of_escape {r left : Bytes} {x : Bytes}
    (read : outcome? (escape r) = some (x, left)) :
    outcome? (skipText (backslash :: r)) = outcome? (skipText left) := by
  rw [outcome?_skipText_escape]
  cases r with
  | nil => cases read
  | cons b r =>
    by_cases unit : b = unicodeLetter
    · subst unit
      rw [outcome?_escape_unit, outcome?_unicodeEscape] at read
      obtain ⟨⟨n, r'⟩, first, read⟩ := Option.bind_eq_some_iff.1 read
      rw [outcome?_skipEscape_unit, first]
      show outcome? (skipText r') = _
      simp only at read
      split at read
      · cases read
      split at read
      · exact skipText_of_secondHalf read
      · cases read
        rfl
    · rw [escape, if_neg unit] at read
      split at read
      · next c eq =>
        cases read
        rw [outcome?_skipEscape_letter unit eq]
        rfl
      · cases read

theorem skipText_of_content {s r : Bytes} {x : Bytes} (read : outcome? (content s) = some (x, r)) :
    outcome? (skipText s) = some ((), r) := by
  induction n : s.length using Nat.strongRecOn generalizing s x with
  | ind n ih =>
    subst n
    cases s with
    | nil => rw [content] at read; cases read
    | cons b t =>
      by_cases quote : b = quoteByte
      · subst quote
        rw [outcome?_content_close] at read
        cases read
        exact outcome?_skipText_close _
      by_cases slash : b = backslash
      · subst slash
        rw [outcome?_content_escape] at read
        obtain ⟨⟨y, left⟩, escaped, read⟩ := Option.bind_eq_some_iff.1 read
        obtain ⟨⟨z, r'⟩, others, eq⟩ := Option.map_eq_some_iff.1 read
        obtain ⟨_, rfl⟩ := Prod.mk.inj eq
        obtain ⟨shorter, _⟩ := outcome?_eq_some.1 escaped
        rw [skipText_of_escape escaped]
        exact ih left.length (Nat.lt_succ_of_lt shorter) others rfl
      by_cases control : b < 0x20
      · rw [content, if_neg quote, if_neg slash, if_pos control] at read
        cases read
      · rw [outcome?_content_plain ⟨quote, slash, control⟩] at read
        obtain ⟨⟨z, r'⟩, others, eq⟩ := Option.map_eq_some_iff.1 read
        obtain ⟨_, rfl⟩ := Prod.mk.inj eq
        rw [outcome?_skipText_plain ⟨quote, slash, control⟩]
        exact ih t.length (Nat.lt_succ_self _) others rfl

/-- A string that is read would have been passed over. -/
theorem skipText_of_text {s r : Bytes} {t : String} (read : outcome? (text s) = some (t, r)) :
    outcome? (skipText s) = some ((), r) := by
  rw [outcome?_text_eq] at read
  obtain ⟨⟨x, left⟩, inner, read⟩ := Option.bind_eq_some_iff.1 read
  obtain ⟨_, _, eq⟩ := Option.map_eq_some_iff.1 read
  cases eq
  exact skipText_of_content inner

/-! ## Writing a string -/

theorem hexUnit?_control {n : Nat} (control : n < 0x20) :
    hexUnit? ['0', '0', hexDigit (n / 16), hexDigit (n % 16)] = some n := by
  have all : ∀ n < 0x20, hexUnit? ['0', '0', hexDigit (n / 16), hexDigit (n % 16)] = some n := by
    decide +kernel
  exact all n control

/-- The written form of a character is one place of a string and says the
character. -/
theorem exists_item (c : Char) : ∃ item : Item,
    (∀ {items cs ds}, Content items cs ds → Content (item :: items) (quoteChar c ++ cs) ds) ∧
      ∀ items, spelledOut (item :: items) = (spelledOut items).map (c :: ·) := by
  have short {e : Char} (mem : (e, c) ∈ letterEscapes) : ∃ item : Item,
      (∀ {items cs ds}, Content items cs ds → Content (item :: items) (['\\', e] ++ cs) ds) ∧
        ∀ items, spelledOut (item :: items) = (spelledOut items).map (c :: ·) :=
    ⟨.char c, .letter mem, fun _ => rfl⟩
  rw [quoteChar]
  split
  · next reserved =>
    rcases reserved with rfl | rfl <;> exact short (by decide)
  · next free =>
    split
    · next eq => exact short (by rw [eq]; decide)
    split
    · next eq => exact short (by rw [eq]; decide)
    split
    · next eq => exact short (by rw [eq]; decide)
    split
    · next eq => exact short (by rw [eq]; decide)
    split
    · next eq => exact short (by rw [eq]; decide)
    split
    · next control =>
      refine ⟨.unit c.toNat, fun h => .unit (hexUnit?_control control) h, fun items => ?_⟩
      have small : ¬ isTrailing c.toNat ∧ ¬ isLeading c.toNat := by
        simp only [isTrailing, isLeading, Bool.and_eq_true, decide_eq_true_eq]
        omega
      rw [spelledOut_unit small.1 small.2, Char.ofNat_toNat]
    · next low =>
      exact ⟨.char c, fun h => .plain (Nat.le_of_not_lt low) (fun eq => free (.inl eq))
        (fun eq => free (.inr eq)) h, fun _ => rfl⟩

/-- The written form of a text, behind its opening quote, says the text. -/
theorem content_quote (t : String) (ds : List Char) :
    ∃ items, Content items (t.toList.flatMap quoteChar ++ '"' :: ds) ds ∧
      textOf items = some t := by
  suffices all : ∀ cs : List Char, ∃ items,
      Content items (cs.flatMap quoteChar ++ '"' :: ds) ds ∧ spelledOut items = some cs by
    obtain ⟨items, content, spells⟩ := all t.toList
    exact ⟨items, content, by rw [textOf, spells, Option.map_some, String.ofList_toList]⟩
  intro cs
  induction cs with
  | nil => exact ⟨[], .close, rfl⟩
  | cons c cs ih =>
    obtain ⟨items, content, spells⟩ := ih
    obtain ⟨item, writes, spellsOne⟩ := exists_item c
    exact ⟨item :: items, by rw [List.flatMap_cons, List.append_assoc]; exact writes content,
      by rw [spellsOne, spells, Option.map_some]⟩

end Dashboard.Json
