/-!
# UTF-8

Bodies arrive as bytes. This module reads the characters that well-formed
UTF-8 writes, finds where a text stops being well formed, and reads any
bytes at all by putting U+FFFD where they are not.

## The table the module rests on

`Utf8.lead?` gives, for the first byte of a sequence, how many bytes follow
and between which bounds the second one lies. The bounds are what rules out
overlong forms, surrogates and code points past U+10FFFF; every byte after
the second lies between `0x80` and `0xBF`.

## Main definitions

* `Utf8.encode` — the bytes of a text.
* `Utf8.split` — the longest well-formed beginning, and the bytes after it.
* `Utf8.decode?` — the text, if all bytes are well formed.
* `Utf8.lossy` — the text, with U+FFFD for each maximal ill-formed part.
-/

namespace Dashboard

/-- The bytes of a body. -/
abbrev Bytes := List UInt8

namespace Utf8

/-- The bytes of a text. -/
def encode (text : String) : Bytes := text.toList.flatMap String.utf8EncodeChar

/-! ## The sequences -/

/-- What the first byte of a sequence promises. -/
structure Lead where
  /-- The bits of the code point that the first byte carries. -/
  bits : Nat
  /-- How many bytes follow. -/
  following : Nat
  /-- The least and the greatest second byte. -/
  low : UInt8
  high : UInt8

/-- The promise of a first byte, if a sequence may begin with it. -/
def lead? (b : UInt8) : Option Lead :=
  if b < 0x80 then some ⟨b.toNat, 0, 0x80, 0xBF⟩
  else if b < 0xC2 then none
  else if b < 0xE0 then some ⟨b.toNat - 0xC0, 1, 0x80, 0xBF⟩
  else if b < 0xF0 then
    some ⟨b.toNat - 0xE0, 2, if b = 0xE0 then 0xA0 else 0x80, if b = 0xED then 0x9F else 0xBF⟩
  else if b < 0xF5 then
    some ⟨b.toNat - 0xF0, 3, if b = 0xF0 then 0x90 else 0x80, if b = 0xF4 then 0x8F else 0xBF⟩
  else none

/-- The longest run of at most `count` bytes of which the first lies between
`low` and `high` and the others between `0x80` and `0xBF`. -/
def continuation (count : Nat) (low high : UInt8) : Bytes → Bytes
  | [] => []
  | b :: rest =>
    match count with
    | 0 => []
    | count + 1 =>
      if low ≤ b ∧ b ≤ high then b :: continuation count 0x80 0xBF rest else []

/-- The code point of a sequence. -/
def codePoint (bits : Nat) (following : Bytes) : Nat :=
  following.foldl (fun n b => n * 64 + (b.toNat - 0x80)) bits

/-- The character that the bytes begin with and the bytes after it, if they
begin with a well-formed sequence. -/
def next? : Bytes → Option (Char × Bytes)
  | [] => none
  | b :: rest =>
    match lead? b with
    | none => none
    | some lead =>
      let following := continuation lead.following lead.low lead.high rest
      if following.length = lead.following then
        some (Char.ofNat (codePoint lead.bits following), rest.drop lead.following)
      else none

/-- The bytes after the ill-formed part that begins with the byte `b`: as
much of a promised sequence as was kept is dropped along with it. -/
def skipIllFormed (b : UInt8) (rest : Bytes) : Bytes :=
  match lead? b with
  | none => rest
  | some lead => rest.drop (continuation lead.following lead.low lead.high rest).length

theorem next?_length {s r : Bytes} {c : Char} (h : next? s = some (c, r)) :
    r.length < s.length := by
  cases s with
  | nil => simp [next?] at h
  | cons b rest =>
    simp only [next?] at h
    split at h
    · simp at h
    · split at h
      · simp only [Option.some.injEq, Prod.mk.injEq] at h
        rw [← h.2]
        simp only [List.length_drop, List.length_cons]
        omega
      · simp at h

theorem skipIllFormed_length (b : UInt8) (rest : Bytes) :
    (skipIllFormed b rest).length ≤ rest.length := by
  unfold skipIllFormed
  split
  · exact Nat.le_refl _
  · simp

/-! ## Reading texts -/

/-- The characters of the longest well-formed beginning, and the bytes from
the first ill-formed sequence on. -/
def split (s : Bytes) : List Char × Bytes :=
  match _h : next? s with
  | none => ([], s)
  | some (c, rest) =>
    let (cs, left) := split rest
    (c :: cs, left)
termination_by s.length
decreasing_by exact next?_length _h

/-- The text that the bytes write, if they are well formed throughout. -/
def decode? (s : Bytes) : Option String :=
  match split s with
  | (cs, []) => some (String.ofList cs)
  | _ => none

/-- How many bytes stand in front of the first ill-formed sequence. -/
def validLength (s : Bytes) : Nat := s.length - (split s).2.length

/-- The characters of any bytes, with U+FFFD for each ill-formed part. -/
def lossyChars (s : Bytes) : List Char :=
  match _h : next? s with
  | some (c, rest) => c :: lossyChars rest
  | none =>
    match s with
    | [] => []
    | b :: rest => '\uFFFD' :: lossyChars (skipIllFormed b rest)
termination_by s.length
decreasing_by
  · exact next?_length _h
  · have := skipIllFormed_length b rest
    simp only [List.length_cons]
    omega

/-- The text of any bytes, with U+FFFD for each ill-formed part. -/
def lossy (s : Bytes) : String := String.ofList (lossyChars s)

end Utf8

end Dashboard
