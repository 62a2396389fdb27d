import Dashboard.Text.Utf8

/-!
# Byte order marks

A body of unknown origin is shown as text. A byte order mark in front of it
says how it is encoded and is not part of the text; without one it is in the
encoding that is named, and in UTF-8 if none is. What is not well formed is
shown as U+FFFD.

## Main definitions

* `Text.ofBodyIn` — the text of a body.
-/

namespace Dashboard.Text

/-- The 16-bit units of some bytes; `big` says which byte of a unit comes
first. A last byte without a partner gives no unit. -/
def units16 (big : Bool) : Bytes → List Nat
  | a :: b :: rest =>
    (if big then a.toNat * 256 + b.toNat else b.toNat * 256 + a.toNat) :: units16 big rest
  | _ => []

/-- The characters of 16-bit units, where `cut` says that half a unit comes
after them. A surrogate without its partner gives U+FFFD, and so does half
a unit, together with a leading surrogate in front of it. -/
def charsOfUnits16 (cut : Bool) : List Nat → List Char
  | [] => if cut then ['\uFFFD'] else []
  | [a] =>
    if 0xD800 ≤ a ∧ a ≤ 0xDBFF then ['\uFFFD']
    else (if 0xDC00 ≤ a ∧ a ≤ 0xDFFF then '\uFFFD' else Char.ofNat a) ::
      charsOfUnits16 cut []
  | a :: b :: rest =>
    if 0xD800 ≤ a ∧ a ≤ 0xDBFF then
      if 0xDC00 ≤ b ∧ b ≤ 0xDFFF then
        Char.ofNat ((a - 0xD800) * 0x400 + (b - 0xDC00) + 0x10000) :: charsOfUnits16 cut rest
      else '\uFFFD' :: charsOfUnits16 cut (b :: rest)
    else (if 0xDC00 ≤ a ∧ a ≤ 0xDFFF then '\uFFFD' else Char.ofNat a) ::
      charsOfUnits16 cut (b :: rest)

/-- The text of UTF-16 bytes. -/
def ofUtf16 (big : Bool) (s : Bytes) : String :=
  String.ofList (charsOfUnits16 (decide (s.length % 2 = 1)) (units16 big s))

/-- The text of a body that `read` reads if no byte order mark says otherwise. -/
def ofBodyIn (read : Bytes → String) : Bytes → String
  | 0xEF :: 0xBB :: 0xBF :: rest => Utf8.lossy rest
  | 0xFF :: 0xFE :: rest => ofUtf16 false rest
  | 0xFE :: 0xFF :: rest => ofUtf16 true rest
  | body => read body

end Dashboard.Text
