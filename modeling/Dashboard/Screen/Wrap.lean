import Dashboard.Screen.Line

/-!
# Breaking lines

A line that is too long is broken between its words. Spaces inside a row are
kept; those that would start the next row are dropped as far as the row
before still had room for them. A word longer than a row is broken where the
row ends.

## What is pending

Glyphs are taken one at a time. A word is put onto the row only once the
next space shows where it ends, so the spaces in front of it and the word
itself are kept aside until then.

## Main definitions

* `Wrap`, `Wrap.step` — one more glyph.
* `Line.wrap` — the rows of a line.
-/

namespace Dashboard.Screen

/-- What is known after some glyphs of a line. -/
structure Wrap where
  /-- The rows that are complete. -/
  rows : List (List Glyph)
  /-- The row that is not. -/
  row : List Glyph
  /-- The spaces behind it. -/
  space : List Glyph
  /-- The word behind these. -/
  word : List Glyph
  /-- Whether the last glyph was part of a word. -/
  afterWord : Bool

namespace Wrap

/-- No glyph was taken. -/
def start : Wrap := ⟨[], [], [], [], false⟩

/-- Puts the pending spaces and the pending word onto the row. -/
def settle (w : Wrap) : Wrap :=
  { w with row := w.row ++ w.space ++ w.word, space := [], word := [] }

/-- The glyphs without those in front that still fit into the room. -/
def dropFitting (room : Nat) : List Glyph → List Glyph
  | [] => []
  | g :: rest => if g.columns ≤ room then dropFitting (room - g.columns) rest else g :: rest

/-- Completes the row and drops pending spaces for which it still has
room. -/
def breakRow (w : Wrap) (width : Nat) : Wrap :=
  { w with
    rows := w.rows ++ [w.row]
    row := []
    space := dropFitting (width - columns w.row) w.space }

/-- Adds a glyph to what is pending. -/
def push (w : Wrap) (g : Glyph) : Wrap :=
  if g.isSpace then { w with space := w.space ++ [g], afterWord := false }
  else { w with word := w.word ++ [g], afterWord := true }

/-- Whether what is pending has to be put onto the row before a glyph: a word
ends, or it is too long for a row. -/
def mustSettle (w : Wrap) (width : Nat) (g : Glyph) : Bool :=
  (w.afterWord && g.isSpace) ||
    (w.row.isEmpty && width < columns w.word + columns w.space + g.columns)

/-- Whether the row is complete before a glyph. -/
def isFull (w : Wrap) (width : Nat) (g : Glyph) : Bool :=
  width ≤ columns w.row ||
    (0 < g.columns && width ≤ columns w.row + columns w.space + columns w.word)

/-- Takes one more glyph. A glyph wider than a row is passed over, and so is
a space for which the row that is complete now had room. -/
def step (width : Nat) (w : Wrap) (g : Glyph) : Wrap :=
  if width < g.columns then w
  else
    let settled := if w.mustSettle width g then w.settle else w
    if settled.isFull width g then
      let broken := settled.breakRow width
      if g.isSpace && broken.space.isEmpty then broken else broken.push g
    else settled.push g

/-- The rows after the last glyph, at least one. -/
def finish (w : Wrap) : List (List Glyph) :=
  match w.rows, w.settle.row with
  | [], last => [last]
  | rows, [] => rows
  | rows, last => rows ++ [last]

end Wrap

/-- The rows of a line, from top to bottom. -/
def Line.wrap (width : Nat) (line : Line) : List (List Glyph) :=
  (line.glyphs.foldl (Wrap.step width) Wrap.start).finish

end Dashboard.Screen
