/-!
# Blank characters

The Unicode property White_Space, and texts without blanks at their ends.
Format characters such as U+200B and U+FEFF do not have the property.

## Main definitions

* `Text.isBlank` — the property.
* `Text.trim` — a text without blanks at both ends.
-/

namespace Dashboard.Text

/-- Whether a character has the Unicode property White_Space. -/
def isBlank (c : Char) : Bool :=
  let n := c.toNat
  (9 ≤ n && n ≤ 13) || n == 0x20 || n == 0x85 || n == 0xA0 || n == 0x1680 ||
    (0x2000 ≤ n && n ≤ 0x200A) || n == 0x2028 || n == 0x2029 || n == 0x202F ||
    n == 0x205F || n == 0x3000

/-- The characters without the blanks in front. -/
def trimStart (cs : List Char) : List Char := cs.dropWhile isBlank

/-- The characters without the blanks at the end. -/
def trimEnd (cs : List Char) : List Char := (trimStart cs.reverse).reverse

/-- The text without the blanks at its ends. -/
def trim (text : String) : String := String.ofList (trimEnd (trimStart text.toList))

/-- Every blank of the ASCII range that the core library knows is one here. -/
theorem isBlank_of_isWhitespace {c : Char} (h : c.isWhitespace = true) : isBlank c = true := by
  simp only [Char.isWhitespace, Bool.or_eq_true, decide_eq_true_eq] at h
  rcases h with ((h | h) | h) | h <;> subst h <;> decide

end Dashboard.Text
