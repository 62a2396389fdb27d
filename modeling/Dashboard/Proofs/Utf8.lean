import Dashboard.Proofs.Offset
import Dashboard.Text.Utf8

/-!
# Texts as bytes and back

What is read as bytes was written as characters.  A property of the bytes of a
text is turned here into one of its characters, and the reading of characters is
shown to undo their writing.

## The fact the module rests on

All bytes of a character outside ASCII are at least `0x80`.  So a byte below
`0x80` is a character of its own wherever it is met in a text, and a reader that
stops at such bytes only never stops inside a character.

## Main definitions

* `Utf8.bytes` — the bytes of some characters.

## Main results

* `Utf8.decode?_bytes`, `Utf8.lossy_bytes` — reading undoes writing.
* `Utf8.bytes_eq_cons` — a byte below `0x80` is a character.
* `Utf8.bytes_eq_append` — the bytes determine the characters.
* `Utf8.dropWhile_bytes`, `Utf8.takeWhile_bytes` — a run of such bytes.
* `Utf8.forall_mem_bytes` — what holds of all bytes of a text.
-/

namespace Dashboard.Utf8

/-- The bytes of some characters. -/
def bytes (cs : List Char) : Bytes := cs.flatMap String.utf8EncodeChar

@[simp] theorem bytes_nil : bytes [] = [] := rfl

theorem bytes_cons (c : Char) (cs : List Char) :
    bytes (c :: cs) = String.utf8EncodeChar c ++ bytes cs := rfl

theorem bytes_append (cs ds : List Char) : bytes (cs ++ ds) = bytes cs ++ bytes ds :=
  List.flatMap_append

theorem encode_ofList (cs : List Char) : encode (String.ofList cs) = bytes cs := by
  rw [encode, String.toList_ofList]
  rfl

theorem length_bytes (cs : List Char) :
    (bytes cs).length = (String.ofList cs).utf8ByteSize := by
  induction cs with
  | nil => rfl
  | cons c cs ih =>
    rw [bytes_cons, List.length_append, ih, String.length_utf8EncodeChar,
      Text.utf8ByteSize_ofList_cons]

theorem length_encode (text : String) : (encode text).length = text.utf8ByteSize := by
  rw [← String.ofList_toList (s := text), encode_ofList, length_bytes]

/-! ## One character -/

/-- The sequences of a code point, by their length, with the values of their
bytes. -/
inductive Sequence (v : Nat) : Bytes → Prop
  | one {a : UInt8} : v < 0x80 → a.toNat = v → Sequence v [a]
  | two {a b : UInt8} : 0x80 ≤ v → v < 0x800 → a.toNat = 0xC0 + v / 64 →
      b.toNat = 0x80 + v % 64 → Sequence v [a, b]
  | three {a b c : UInt8} : 0x800 ≤ v → v < 0x10000 → a.toNat = 0xE0 + v / 4096 →
      b.toNat = 0x80 + v / 64 % 64 → c.toNat = 0x80 + v % 64 → Sequence v [a, b, c]
  | four {a b c d : UInt8} : 0x10000 ≤ v → a.toNat = 0xF0 + v / 262144 →
      b.toNat = 0x80 + v / 4096 % 64 → c.toNat = 0x80 + v / 64 % 64 → d.toNat = 0x80 + v % 64 →
      Sequence v [a, b, c, d]

theorem sequence_encodeChar (c : Char) : Sequence c.toNat (String.utf8EncodeChar c) := by
  have valid : c.val.toNat < 0xD800 ∨ 0xDFFF < c.val.toNat ∧ c.val.toNat < 0x110000 := c.valid
  have byte : ∀ {n : Nat}, n < 256 → (UInt8.ofNat n).toNat = n := UInt8.toNat_ofNat_of_lt'
  rw [String.utf8EncodeChar]
  show Sequence c.val.toNat (if c.val.toNat ≤ 0x7F then _ else _)
  generalize c.val.toNat = v at valid
  split
  · exact .one (by omega) (byte (by omega))
  split
  · refine .two (by omega) (by omega) ((byte ?_).trans ?_) ((byte ?_).trans ?_) <;> omega
  split
  · refine .three (by omega) (by omega) ((byte ?_).trans ?_) ((byte ?_).trans ?_)
      ((byte ?_).trans ?_) <;> omega
  · refine .four (by omega) ((byte ?_).trans ?_) ((byte ?_).trans ?_) ((byte ?_).trans ?_)
      ((byte ?_).trans ?_) <;> omega

theorem encodeChar_ascii {c : Char} (ascii : c.toNat < 0x80) :
    String.utf8EncodeChar c = [UInt8.ofNat c.toNat] := by
  apply String.utf8EncodeChar_eq_singleton
  rw [Char.utf8Size_eq_one_iff, UInt32.le_iff_toNat_le]
  exact Nat.le_of_lt_succ ascii

theorem bytes_cons_ascii {c : Char} (ascii : c.toNat < 0x80) (cs : List Char) :
    bytes (c :: cs) = UInt8.ofNat c.toNat :: bytes cs := by
  rw [bytes_cons, encodeChar_ascii ascii]
  rfl

theorem le_of_mem_encodeChar {c : Char} (wide : 0x80 ≤ c.toNat) {b : UInt8}
    (mem : b ∈ String.utf8EncodeChar c) : 0x80 ≤ b := by
  rw [UInt8.le_iff_toNat_le]
  show 0x80 ≤ b.toNat
  have sequence := sequence_encodeChar c
  generalize String.utf8EncodeChar c = bs at sequence mem
  cases sequence <;> simp only [List.mem_cons, List.not_mem_nil, or_false] at mem <;> grind

/-- No sequence has a byte from `0xF5` on. -/
theorem lt_of_mem_encodeChar {c : Char} {b : UInt8} (mem : b ∈ String.utf8EncodeChar c) :
    b.toNat < 0xF5 := by
  have valid : c.toNat < 0xD800 ∨ 0xDFFF < c.toNat ∧ c.toNat < 0x110000 := c.valid
  have sequence := sequence_encodeChar c
  generalize String.utf8EncodeChar c = bs at sequence mem
  cases sequence <;> simp only [List.mem_cons, List.not_mem_nil, or_false] at mem <;> grind

/-- What holds of the 128 characters of ASCII holds of each character below
U+0080. -/
theorem forall_ascii {P : Char → Prop} (all : ∀ n < 0x80, P (Char.ofNat n)) {c : Char}
    (ascii : c.toNat < 0x80) : P c := by
  have := all c.toNat ascii
  rwa [Char.ofNat_toNat] at this

/-- What holds of every byte from `0x80` on is settled by the characters of ASCII. -/
theorem forall_mem_bytes {P : UInt8 → Prop} (high : ∀ b, 0x80 ≤ b → P b) (cs : List Char) :
    (∀ b ∈ bytes cs, P b) ↔ ∀ c ∈ cs, c.toNat < 0x80 → P (UInt8.ofNat c.toNat) := by
  simp only [bytes, List.mem_flatMap]
  constructor
  · intro all c mem ascii
    exact all _ ⟨c, mem, by rw [encodeChar_ascii ascii]; exact List.mem_singleton_self _⟩
  · rintro all b ⟨c, mem, inside⟩
    by_cases ascii : c.toNat < 0x80
    · rw [encodeChar_ascii ascii, List.mem_singleton] at inside
      exact inside ▸ all c mem ascii
    · exact high b (le_of_mem_encodeChar (Nat.le_of_not_lt ascii) inside)

/-- A character outside ASCII begins with a byte that is none. -/
theorem encodeChar_wide {c : Char} (wide : 0x80 ≤ c.toNat) :
    ∃ b bs, String.utf8EncodeChar c = b :: bs ∧ ∀ x ∈ b :: bs, 0x80 ≤ x := by
  obtain ⟨b, bs, eq⟩ := List.exists_cons_of_ne_nil (String.utf8EncodeChar_ne_nil (c := c))
  exact ⟨b, bs, eq, fun x mem => le_of_mem_encodeChar wide (eq ▸ mem)⟩

theorem toNat_ofNat_ascii {c : Char} (ascii : c.toNat < 0x80) :
    (UInt8.ofNat c.toNat).toNat = c.toNat :=
  UInt8.toNat_ofNat_of_lt' (Nat.lt_trans ascii (by decide))

theorem ofNat_inj_of_ascii {c d : Char} (hc : c.toNat < 0x80) (hd : d.toNat < 0x80) :
    UInt8.ofNat c.toNat = UInt8.ofNat d.toNat ↔ c = d := by
  rw [← UInt8.toNat_inj, toNat_ofNat_ascii hc, toNat_ofNat_ascii hd, Char.toNat_inj]

/-! ## Reading a character -/

theorem lead?_one {b : UInt8} (high : b.toNat < 0x80) :
    lead? b = some ⟨b.toNat, 0, 0x80, 0xBF⟩ :=
  if_pos (UInt8.lt_iff_toNat_lt.2 high)

theorem lead?_two {b : UInt8} (low : 0xC2 ≤ b.toNat) (high : b.toNat < 0xE0) :
    lead? b = some ⟨b.toNat - 0xC0, 1, 0x80, 0xBF⟩ := by
  simp only [lead?, UInt8.lt_iff_toNat_lt, UInt8.reduceToNat]
  rw [if_neg (by omega), if_neg (by omega), if_pos high]

theorem lead?_three {b : UInt8} (low : 0xE0 ≤ b.toNat) (high : b.toNat < 0xF0) :
    lead? b = some ⟨b.toNat - 0xE0, 2, if b.toNat = 0xE0 then 0xA0 else 0x80,
      if b.toNat = 0xED then 0x9F else 0xBF⟩ := by
  simp only [lead?, UInt8.lt_iff_toNat_lt, ← UInt8.toNat_inj, UInt8.reduceToNat]
  rw [if_neg (by omega), if_neg (by omega), if_neg (by omega), if_pos high]

theorem lead?_four {b : UInt8} (low : 0xF0 ≤ b.toNat) (high : b.toNat < 0xF5) :
    lead? b = some ⟨b.toNat - 0xF0, 3, if b.toNat = 0xF0 then 0x90 else 0x80,
      if b.toNat = 0xF4 then 0x8F else 0xBF⟩ := by
  simp only [lead?, UInt8.lt_iff_toNat_lt, ← UInt8.toNat_inj, UInt8.reduceToNat]
  rw [if_neg (by omega), if_neg (by omega), if_neg (by omega), if_neg (by omega), if_pos high]

theorem continuation_zero (low high : UInt8) (s : Bytes) : continuation 0 low high s = [] := by
  cases s <;> rfl

theorem continuation_cons {count : Nat} {low high b : UInt8} {s : Bytes}
    (hl : low.toNat ≤ b.toNat) (hh : b.toNat ≤ high.toNat) :
    continuation (count + 1) low high (b :: s) = b :: continuation count 0x80 0xBF s := by
  simp only [continuation, UInt8.le_iff_toNat_le, hl, hh, and_self, ↓reduceIte]

/-- From the third byte on the bounds are the same. -/
theorem continuation_tail {count : Nat} {b : UInt8} {s : Bytes} (hl : 0x80 ≤ b.toNat)
    (hh : b.toNat < 0xC0) :
    continuation (count + 1) 0x80 0xBF (b :: s) = b :: continuation count 0x80 0xBF s :=
  continuation_cons hl (Nat.le_of_lt_succ hh)

/-- A sequence that keeps what its first byte promises is read. -/
theorem next?_of_continuation {b : UInt8} {lead : Lead} {following rest : Bytes} {c : Char}
    (promise : lead? b = some lead)
    (kept : continuation lead.following lead.low lead.high (following ++ rest) = following)
    (all : following.length = lead.following) (value : codePoint lead.bits following = c.toNat) :
    next? (b :: following ++ rest) = some (c, rest) := by
  simp only [List.cons_append, next?, promise, kept, all, ↓reduceIte, value, Char.ofNat_toNat]
  rw [← all, List.drop_left]

theorem next?_encodeChar (c : Char) (rest : Bytes) :
    next? (String.utf8EncodeChar c ++ rest) = some (c, rest) := by
  have valid : c.toNat < 0xD800 ∨ 0xDFFF < c.toNat ∧ c.toNat < 0x110000 := c.valid
  have sequence := sequence_encodeChar c
  generalize String.utf8EncodeChar c = bs at sequence
  -- The bounds of the second byte leave out what no character has: the split on
  -- them is closed by `valid`.
  cases sequence with
  | one small first =>
    exact next?_of_continuation (lead?_one (by omega)) (continuation_zero ..) rfl first
  | two low high first second =>
    refine next?_of_continuation (lead?_two (by omega) (by omega)) ?_ rfl ?_
    · simp only [List.cons_append, List.nil_append]
      rw [continuation_tail (by omega) (by omega), continuation_zero]
    · simp only [codePoint, List.foldl_cons, List.foldl_nil]
      omega
  | three low high first second third =>
    refine next?_of_continuation (lead?_three (by omega) (by omega)) ?_ rfl ?_
    · simp only [List.cons_append, List.nil_append]
      rw [continuation_cons, continuation_tail (by omega) (by omega), continuation_zero]
      · split <;> simp only [UInt8.reduceToNat] <;> omega
      · split <;> simp only [UInt8.reduceToNat] <;> omega
    · simp only [codePoint, List.foldl_cons, List.foldl_nil]
      omega
  | four low first second third fourth =>
    refine next?_of_continuation (lead?_four (by omega) (by omega)) ?_ rfl ?_
    · simp only [List.cons_append, List.nil_append]
      rw [continuation_cons, continuation_tail (by omega) (by omega),
        continuation_tail (by omega) (by omega), continuation_zero]
      · split <;> simp only [UInt8.reduceToNat] <;> omega
      · split <;> simp only [UInt8.reduceToNat] <;> omega
    · simp only [codePoint, List.foldl_cons, List.foldl_nil]
      omega

/-! ## Reading texts -/

theorem split_bytes (cs : List Char) : split (bytes cs) = (cs, []) := by
  induction cs with
  | nil =>
    rw [split]
    rfl
  | cons c cs ih =>
    rw [split, bytes_cons]
    split
    · next none => rw [next?_encodeChar] at none; exact absurd none (Option.some_ne_none _)
    · next d rest some =>
      rw [next?_encodeChar] at some
      cases some
      rw [ih]

theorem decode?_bytes (cs : List Char) : decode? (bytes cs) = some (String.ofList cs) := by
  rw [decode?, split_bytes]

/-- What is well formed is kept as it is, whatever comes after it. -/
theorem lossyChars_bytes_append (cs : List Char) (rest : Bytes) :
    lossyChars (bytes cs ++ rest) = cs ++ lossyChars rest := by
  induction cs with
  | nil => rfl
  | cons c cs ih =>
    rw [bytes_cons, List.append_assoc, lossyChars]
    split
    · next d left read =>
      rw [next?_encodeChar] at read
      cases read
      rw [ih, List.cons_append]
    · next unread =>
      rw [next?_encodeChar] at unread
      cases unread

theorem lossy_bytes (cs : List Char) : lossy (bytes cs) = String.ofList cs := by
  have none_left : lossyChars [] = [] := by
    rw [lossyChars]
    rfl
  have whole := lossyChars_bytes_append cs []
  rw [none_left, List.append_nil, List.append_nil] at whole
  rw [lossy, whole]

/-! ## Bytes below `0x80` -/

theorem bytes_eq_nil {cs : List Char} : bytes cs = [] ↔ cs = [] := by
  cases cs with
  | nil => exact ⟨fun _ => rfl, fun _ => rfl⟩
  | cons c cs =>
    rw [bytes_cons, List.append_eq_nil_iff]
    exact ⟨fun h => absurd h.1 String.utf8EncodeChar_ne_nil,
      fun h => absurd h (List.cons_ne_nil _ _)⟩

/-- A text whose bytes begin with one below `0x80` begins with the character of
this code. -/
theorem bytes_eq_cons {cs : List Char} {b : UInt8} {r : Bytes} (eq : bytes cs = b :: r)
    (ascii : b < 0x80) :
    ∃ c ds, cs = c :: ds ∧ c.toNat < 0x80 ∧ UInt8.ofNat c.toNat = b ∧ bytes ds = r := by
  cases cs with
  | nil => exact absurd eq.symm (List.cons_ne_nil b r)
  | cons c ds =>
    by_cases small : c.toNat < 0x80
    · rw [bytes_cons_ascii small] at eq
      cases eq
      exact ⟨c, ds, rfl, small, rfl, rfl⟩
    · obtain ⟨a, as, bs, high⟩ := encodeChar_wide (Nat.le_of_not_lt small)
      rw [bytes_cons, bs] at eq
      cases eq
      have := high b List.mem_cons_self
      rw [UInt8.le_iff_toNat_le] at this
      rw [UInt8.lt_iff_toNat_lt] at ascii
      omega

/-- A text whose bytes begin with those of some characters begins with these. -/
theorem bytes_eq_append {w cs : List Char} {r : Bytes} (eq : bytes cs = bytes w ++ r) :
    ∃ ds, cs = w ++ ds ∧ bytes ds = r := by
  induction w generalizing cs with
  | nil => exact ⟨cs, rfl, eq⟩
  | cons c w ih =>
    rw [bytes_cons, List.append_assoc] at eq
    cases cs with
    | nil =>
      have := List.append_eq_nil_iff.1 eq.symm
      exact absurd this.1 String.utf8EncodeChar_ne_nil
    | cons d cs =>
      -- Both sides are read as one character and what follows it.
      have same := congrArg next? eq
      rw [bytes_cons, next?_encodeChar, next?_encodeChar] at same
      obtain ⟨rfl, rest⟩ := Prod.mk.inj (Option.some.inj same)
      obtain ⟨ds, rfl, left⟩ := ih rest
      exact ⟨ds, rfl, left⟩

section Runs

variable {p : UInt8 → Bool} {q : Char → Bool}
  (narrow : ∀ c : Char, 0x80 ≤ c.toNat → q c = false)
  (low : ∀ b : UInt8, 0x80 ≤ b → p b = false)
  (same : ∀ c : Char, c.toNat < 0x80 → p (UInt8.ofNat c.toNat) = q c)

include narrow low same

/-- Dropping bytes below `0x80` is dropping characters. -/
theorem dropWhile_bytes (cs : List Char) : (bytes cs).dropWhile p = bytes (cs.dropWhile q) := by
  induction cs with
  | nil => rfl
  | cons c cs ih =>
    by_cases small : c.toNat < 0x80
    · rw [bytes_cons_ascii small, List.dropWhile_cons, List.dropWhile_cons, same c small, ih]
      split
      · rfl
      · rw [bytes_cons_ascii small]
    · have wide := Nat.le_of_not_lt small
      obtain ⟨b, bs, eq, high⟩ := encodeChar_wide wide
      rw [List.dropWhile_cons, narrow c wide, bytes_cons, eq, List.cons_append,
        List.dropWhile_cons, low b (high b List.mem_cons_self)]
      exact (congrArg (· ++ bytes cs) eq.symm)

/-- Taking bytes below `0x80` is taking characters. -/
theorem takeWhile_bytes (cs : List Char) : (bytes cs).takeWhile p = bytes (cs.takeWhile q) := by
  have whole : bytes (cs.takeWhile q) ++ bytes (cs.dropWhile q) = bytes cs := by
    rw [← bytes_append, List.takeWhile_append_dropWhile]
  rw [← dropWhile_bytes narrow low same cs] at whole
  exact List.append_cancel_right ((List.takeWhile_append_dropWhile).trans whole.symm)

end Runs

end Dashboard.Utf8
