import Dashboard.Text.Extend
import Dashboard.Text.Printable

/-!
# Texts shown between quotes

A text that is quoted in a message must be readable on one line and must
show every character it has. Quotes and backslashes are escaped, and so is
every character that has no shape of its own or would combine with the one
before it.

## Main definitions

* `Text.quoted` — a text between quotes.
-/

namespace Dashboard.Text

/-- A character between quotes. -/
def quotedChar (c : Char) : List Char :=
  if c = '"' ∨ c = '\\' then ['\\', c]
  else if c = '\x00' then "\\0".toList
  else if c = '\t' then "\\t".toList
  else if c = '\n' then "\\n".toList
  else if c = '\r' then "\\r".toList
  else if isPrintable c && !isExtending c then [c]
  else "\\u\x7b".toList ++ Nat.toDigits 16 c.toNat ++ ['\x7d']

/-- A text between quotes. -/
def quoted (text : String) : String :=
  String.ofList ('"' :: text.toList.flatMap quotedChar ++ ['"'])

end Dashboard.Text
