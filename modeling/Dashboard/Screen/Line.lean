import Dashboard.Screen.Style
import Dashboard.Text.Blank
import Dashboard.Text.Cluster
import Dashboard.Text.Columns

/-!
# Lines of styled text

A line is made of spans, each in one style. It is drawn cluster by cluster:
a cluster with its style and its columns is a glyph.

## Main definitions

* `Span`, `Line` — styled text.
* `Glyph`, `Line.glyphs` — what is drawn of it.
* `Line.truncate` — the glyphs that fit into a row.
-/

namespace Dashboard.Screen

/-- A text in one style. -/
structure Span where
  text : String
  style : Style
  deriving DecidableEq

/-- Spans, one behind the other. -/
abbrev Line := List Span

/-- A cluster that is drawn. -/
structure Glyph where
  cluster : List Char
  style : Style
  columns : Nat
  deriving DecidableEq

/-- Whether a character is a control character. -/
def isControl (c : Char) : Bool := c.toNat < 0x20 || (0x7F ≤ c.toNat && c.toNat < 0xA0)

/-- Whether a line may be broken at a glyph: it is blank, or the invisible
space U+200B. The no-break space is not such a glyph. -/
def Glyph.isSpace (g : Glyph) : Bool :=
  g.cluster == ['\u200B'] || (g.cluster.all Text.isBlank && g.cluster != ['\u00A0'])

/-- The columns of glyphs, one after another. -/
def columns (glyphs : List Glyph) : Nat := glyphs.foldr (·.columns + ·) 0

@[simp] theorem columns_nil : columns [] = 0 := rfl

@[simp] theorem columns_cons (g : Glyph) (rest : List Glyph) :
    columns (g :: rest) = g.columns + columns rest := rfl

@[simp] theorem columns_append (a b : List Glyph) : columns (a ++ b) = columns a + columns b := by
  induction a with
  | nil => simp
  | cons g rest ih => rw [List.cons_append, columns_cons, columns_cons, ih, Nat.add_assoc]

/-- The glyphs of a span. A cluster with a control character in it is left
out. -/
def Span.glyphs (s : Span) : List Glyph :=
  ((Text.clusters s.text.toList).filter fun cluster => !cluster.any isControl).map
    fun cluster => ⟨cluster, s.style, Text.clusterColumns cluster⟩

namespace Line

/-- The glyphs of a line. -/
def glyphs (line : Line) : List Glyph := line.flatMap Span.glyphs

/-- The glyphs that fit into a number of columns, up to the first that does
not. -/
def fitting (room : Nat) : List Glyph → List Glyph
  | [] => []
  | g :: rest => if g.columns ≤ room then g :: fitting (room - g.columns) rest else []

/-- The glyphs of a line that fit into a row of a width. A glyph wider than
the whole row is passed over. -/
def truncate (width : Nat) (line : Line) : List Glyph :=
  fitting width (line.glyphs.filter (·.columns ≤ width))

theorem columns_fitting (glyphs : List Glyph) : ∀ room, columns (fitting room glyphs) ≤ room := by
  induction glyphs with
  | nil => intro room; exact Nat.zero_le _
  | cons g rest ih =>
    intro room
    unfold fitting
    split
    · have := ih (room - g.columns)
      rw [columns_cons]
      omega
    · exact Nat.zero_le _

/-- What is left of a line fits into the row. -/
theorem columns_truncate (width : Nat) (line : Line) : columns (line.truncate width) ≤ width :=
  columns_fitting _ _

end Line

end Dashboard.Screen
