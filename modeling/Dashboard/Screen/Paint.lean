import Dashboard.Binary64
import Dashboard.Screen.Grid
import Dashboard.Screen.Wrap

/-!
# Painting

The shapes a screen is composed of: rules, boxes with a title, text and the
gauge. Each is painted into an area, over what was there.

## Main definitions

* `Grid.write`, `Grid.writeWrapped` — lines of text.
* `Grid.box`, `Grid.rule` — lines around and between areas.
* `Grid.gauge` — a bar of which a part is filled.
-/

namespace Dashboard.Screen.Grid

/-! ## Text -/

/-- Draws glyphs from a cell on to the right. A glyph without columns is not
drawn. -/
def glyphs (g : Grid) (x y : Nat) : List Glyph → Grid
  | [] => g
  | glyph :: rest =>
    if glyph.columns = 0 then g.glyphs x y rest
    else (g.put x y glyph.cluster glyph.style).glyphs (x + glyph.columns) y rest

/-- Draws rows of glyphs from the top of an area on; those below it are left
out. -/
def glyphRows (g : Grid) (area : Area) (rows : List (List Glyph)) : Grid :=
  if area.isEmpty then g
  else (rows.take area.height).zipIdx.foldl (fun g row => g.glyphs area.left (area.top + row.2) row.1) g

/-- Writes lines into an area, each into one row and as far as it fits. -/
def write (g : Grid) (area : Area) (lines : List Line) : Grid :=
  g.glyphRows area (lines.map (·.truncate area.width))

/-- Writes lines into an area, where a line that is too long goes on in the
next row. -/
def writeWrapped (g : Grid) (area : Area) (lines : List Line) : Grid :=
  g.glyphRows area (lines.flatMap (·.wrap area.width))

/-! ## Boxes -/

/-- The style of all lines around and between areas. -/
def frameStyle : Style := .color .darkGray

/-- Draws a line along the first row of an area. -/
def rule (g : Grid) (area : Area) : Grid :=
  if area.isEmpty then g
  else g.updateRow area.left area.top area.width fun cell => ⟨['─'], cell.look.restyle frameStyle⟩

/-- Draws a border along the cells at the edge of an area, and a title in its
first row. In an area of one column the left corners win, in one of one row
the upper ones. -/
def box (g : Grid) (area : Area) (title : String) : Grid :=
  if area.isEmpty then g
  else
    let right := area.left + area.width - 1
    let bottom := area.top + area.height - 1
    let draw (symbol : Char) (cell : Cell) : Cell := ⟨[symbol], cell.look.restyle frameStyle⟩
    let sides :=
      ((((g.updateColumn area.left area.top area.height (draw '│')).updateColumn
        right area.top area.height (draw '│')).updateRow
        area.left area.top area.width (draw '─')).updateRow
        area.left bottom area.width (draw '─'))
    let corners :=
      (((sides.update right bottom (draw '┘')).update right area.top (draw '┐')).update
        area.left bottom (draw '└')).update area.left area.top (draw '┌')
    corners.glyphs (area.left + 1) area.top
      (Line.truncate (area.width - 2) [⟨title, .none⟩])

/-! ## The gauge -/

/-- How many of `width` cells the share `ratio` fills, to the nearest one; a
half counts as one more. -/
def filledCells (width : Nat) (ratio : Binary64) : Nat :=
  match Binary64.ofNat width * ratio with
  | .finite false rank => (2 * Binary64.units rank + Binary64.unitsPerOne) / (2 * Binary64.unitsPerOne)
  | _ => 0

/-- Draws the gauge into the first row of an area. The cell in its middle is
left free of the bar, and shows the colour of the bar as its background once
the bar passes it. -/
def gauge (g : Grid) (area : Area) (color : Color) (ratio : Binary64) : Grid :=
  if area.isEmpty then g
  else
    let filled := filledCells area.width ratio
    let middle := area.width / 2
    let colored := g.updateRow area.left area.top area.width fun cell =>
      { cell with look := cell.look.restyle (.color color) }
    let bar := colored.updateRow area.left area.top filled fun cell => { cell with symbol := ['█'] }
    if middle < filled then
      bar.update (area.left + middle) area.top fun cell =>
        ⟨[' '], { cell.look with foreground := .reset, background := color }⟩
    else bar

end Dashboard.Screen.Grid
