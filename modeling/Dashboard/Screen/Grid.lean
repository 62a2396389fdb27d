import Dashboard.Screen.Style

/-!
# The grid of cells

A screen is a grid of cells, each with a symbol and a look. Everything is
drawn by changing single cells. Whatever lies outside the grid is clipped, so
drawing needs no bounds of its own.

## Main definitions

* `Cell`, `Grid`, `Grid.blank` — the screen.
* `Grid.get?`, `Grid.update` — one cell.
* `Area` — a rectangle of cells.
* `Grid.rows`, `Grid.runs` — the screen as text, and its styled parts.
-/

namespace Dashboard.Screen

/-- One cell. Its symbol is one cluster, and may be wider than the cell. -/
structure Cell where
  symbol : List Char
  look : Look
  deriving DecidableEq

/-- A cell on which nothing was drawn. -/
def Cell.blank : Cell := ⟨[' '], .plain⟩

/-- A grid of cells, row after row. -/
structure Grid where
  width : Nat
  height : Nat
  cells : Array Cell
  size_cells : cells.size = width * height

/-- A rectangle of cells. -/
structure Area where
  left : Nat
  top : Nat
  width : Nat
  height : Nat
  deriving DecidableEq

namespace Area

/-- Whether there is no cell in the area. -/
def isEmpty (a : Area) : Bool := a.width == 0 || a.height == 0

/-- The area inside a border that is one cell wide. -/
def inner (a : Area) : Area := ⟨a.left + 1, a.top + 1, a.width - 2, a.height - 2⟩

/-- One row of the area, which is empty below the last row. -/
def row (a : Area) (i : Nat) : Area := ⟨a.left, a.top + i, a.width, min 1 (a.height - i)⟩

/-- The first `n` rows of the area. -/
def takeRows (a : Area) (n : Nat) : Area := { a with height := min n a.height }

/-- The area without its first `n` rows. -/
def dropRows (a : Area) (n : Nat) : Area := ⟨a.left, a.top + n, a.width, a.height - n⟩

/-- The first `n` columns of the area. -/
def takeColumns (a : Area) (n : Nat) : Area := { a with width := min n a.width }

/-- The area without its first `n` columns. -/
def dropColumns (a : Area) (n : Nat) : Area := ⟨a.left + n, a.top, a.width - n, a.height⟩

end Area

namespace Grid

/-- A grid on which nothing was drawn. -/
def blank (width height : Nat) : Grid :=
  ⟨width, height, Array.replicate (width * height) .blank, by simp⟩

/-- The cell in a column and a row. -/
def get? (g : Grid) (x y : Nat) : Option Cell :=
  if x < g.width then g.cells[y * g.width + x]? else none

/-- Changes the cell in a column and a row, if there is one. -/
def update (g : Grid) (x y : Nat) (f : Cell → Cell) : Grid :=
  if x < g.width then
    ⟨g.width, g.height, g.cells.modify (y * g.width + x) f, by simp [g.size_cells]⟩
  else g

@[simp] theorem width_update (g : Grid) (x y : Nat) (f : Cell → Cell) :
    (g.update x y f).width = g.width := by
  unfold update; split <;> rfl

@[simp] theorem height_update (g : Grid) (x y : Nat) (f : Cell → Cell) :
    (g.update x y f).height = g.height := by
  unfold update; split <;> rfl

/-- A cell that is changed shows the change. -/
theorem get?_update_self (g : Grid) (x y : Nat) (f : Cell → Cell) :
    (g.update x y f).get? x y = (g.get? x y).map f := by
  unfold update get?
  split <;> simp [Array.getElem?_modify, *]

/-- Writes a symbol into a cell and sets a style on it. -/
def put (g : Grid) (x y : Nat) (symbol : List Char) (style : Style) : Grid :=
  g.update x y fun cell => ⟨symbol, cell.look.restyle style⟩

/-- Makes the same change to the cells from column `x` on, `n` of them. -/
def updateRow (g : Grid) (x y n : Nat) (f : Cell → Cell) : Grid :=
  n.fold (fun i _ g => g.update (x + i) y f) g

/-- Makes the same change to the cells from row `y` on, `n` of them. -/
def updateColumn (g : Grid) (x y n : Nat) (f : Cell → Cell) : Grid :=
  n.fold (fun i _ g => g.update x (y + i) f) g

/-! ## Reading the screen -/

/-- The cells of a row. -/
def row (g : Grid) (y : Nat) : List Cell :=
  (g.cells.extract (y * g.width) ((y + 1) * g.width)).toList

/-- The text of each row, without the spaces at its end. -/
def rows (g : Grid) : List String :=
  (List.range g.height).map fun y =>
    let text := (g.row y).flatMap (·.symbol)
    String.ofList (text.reverse.dropWhile (· = ' ')).reverse

/-- Neighbours in a row that look the same. -/
structure Run where
  start : Nat
  length : Nat
  look : Look
  deriving DecidableEq

/-- The runs of the cells from column `x` on. -/
def runsFrom (x : Nat) : List Cell → List Run
  | [] => []
  | cell :: cells =>
    match runsFrom (x + 1) cells with
    | run :: runs =>
      if run.look = cell.look then ⟨x, run.length + 1, run.look⟩ :: runs
      else ⟨x, 1, cell.look⟩ :: run :: runs
    | [] => [⟨x, 1, cell.look⟩]

/-- The runs of each row, but for those that are plain. -/
def runs (g : Grid) : List (List Run) :=
  (List.range g.height).map fun y => (runsFrom 0 (g.row y)).filter (·.look ≠ .plain)

end Grid

end Dashboard.Screen
