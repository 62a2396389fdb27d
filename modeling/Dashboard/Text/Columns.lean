import Dashboard.Text.Break
import Dashboard.Text.Wide

/-!
# Terminal columns

How many columns of a terminal a character and a cluster take.

## Main definitions

* `Text.charColumns` — the columns of one character.
* `Text.clusterColumns` — the columns of one cluster.
-/

namespace Dashboard.Text

/-- Whether a character is never drawn: it extends another one, may be left
out, or is a vowel or final consonant of a Hangul block. The Hangul filler
fills the room of a letter, and the Tifinagh joiner is drawn. -/
def isColumnless (c : Char) : Bool :=
  (isIgnorable c && c != '\u115F') || (isExtending c && c != '\u2D7F') ||
    ['\u0605', '\u070F', '\u0890', '\u0891', '\u08E2', '\uA8FA'].contains c ||
    match hangulClass? c.toNat with
    | some .hangulVowel | some .hangulTail => true
    | _ => false

/-- The columns that a character takes. -/
def charColumns (c : Char) : Nat :=
  if c.toNat < 0x7F then 1
  else if isColumnless c then 0
  else if c = '\u17D8' then 3
  else if isWide c || c == '\u17A4' then 2
  else 1

/-- Whether a character is always shown as an emoji. -/
def isColored (c : Char) : Bool := isWide c && (isPictographic c || isSkinTone c)

/-- Whether two characters are one emoji: a symbol and the selector of its
emoji form, a person and a skin tone, or the two letters of a flag. -/
def isEmojiPair (c next : Char) : Bool :=
  (next == '\uFE0F' && hasTextForm c) || (isSkinTone next && takesSkinTone c) ||
    (isFlagLetter c && isFlagLetter next)

/-- What came before a character of a cluster. -/
inductive Before where
  | other
  | emoji
  /-- An emoji and a joiner. -/
  | joinedEmoji
  deriving DecidableEq

/-- What came before the character after `c`. -/
def Before.after (b : Before) (c : Char) : Before :=
  if c = '\u200D' then (if b = .emoji then .joinedEmoji else .other)
  else if c = '\uFE0F' then b
  else if isColored c then .emoji
  else .other

/-- The columns of the rest of a cluster. An emoji that is joined to one
before it is drawn in the same place. -/
def restColumns (b : Before) : List Char → Nat
  | [] => 0
  | [c] => if b = .joinedEmoji ∧ isColored c then 0 else charColumns c
  | c :: next :: rest =>
    if isEmojiPair c next then
      (if b = .joinedEmoji then 0 else 2) + restColumns .emoji rest
    else
      (if b = .joinedEmoji ∧ isColored c then 0 else charColumns c) +
        restColumns (b.after c) (next :: rest)

/-- The columns that a cluster takes: those of its characters, where all that
is drawn as one emoji counts two. -/
def clusterColumns (cluster : List Char) : Nat := restColumns .other cluster

end Dashboard.Text
