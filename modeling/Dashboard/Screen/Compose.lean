import Dashboard.Screen.KeyBar
import Dashboard.Screen.Paint
import Dashboard.Screen.Panels

/-!
# The screen

Where everything is: the banner at the top, the toasts and the key bar at the
bottom, and between them the budget on the left, the status of the server
and the webhooks on the right.

## Main definitions

* `Screen.Layout` — the areas of a screen of a given size.
* `Console.draw` — the screen.
-/

namespace Dashboard

namespace Screen

/-- The areas of the screen. -/
structure Layout where
  banner : Area
  budget : Area
  status : Area
  webhooks : Area
  toasts : Area
  keyBar : Area

/-- The areas of a screen of a given size, which is meant to have 18 rows at
least. The budget gets 45 of 100 columns, rounded to the nearest; the status
gets 14 rows, but the webhooks under it keep 8. -/
def Layout.ofSize (width height : Nat) : Layout :=
  let all : Area := ⟨0, 0, width, height⟩
  let middle := (all.dropRows 3).takeRows (height - 8)
  let left := (45 * width + 50) / 100
  let right := middle.dropColumns left
  let statusRows := min 14 (right.height - 8)
  { banner := all.takeRows 3
    budget := middle.takeColumns left
    status := right.takeRows statusRows
    webhooks := right.dropRows statusRows
    toasts := (all.dropRows (height - 5)).takeRows 3
    keyBar := all.dropRows (height - 2) }

end Screen

namespace Console

open Screen

/-- Draws the banner, with a rule along its last row. -/
def drawBanner (address : String) (area : Area) (g : Grid) : Grid :=
  (g.rule (area.dropRows 2)).write (area.takeRows 2) (banner address)

/-- Draws the budget: two lines with the gauge between them, and below them
the advice. -/
def drawBudget (b : Budget) (area : Area) (g : Grid) : Grid :=
  let inner := area.inner
  ((((g.box area " Monthly Budget ").write (inner.row 0) [b.spentLine]).gauge
    (inner.row 1) b.severity.color b.gaugeRatio).write (inner.row 2) [b.shareLine]).writeWrapped
    (inner.dropRows 3) b.adviceLines

/-- Draws a box with a title and lines in it. -/
def drawPanel (title : String) (lines : List Line) (area : Area) (g : Grid) : Grid :=
  (g.box area title).writeWrapped area.inner lines

/-- Draws the key bar, with a rule along its first row. -/
def drawKeyBar (line : Line) (area : Area) (g : Grid) : Grid :=
  (g.rule area).write (area.dropRows 1) [line]

/-- The screen of a given size; `address` is shown in the banner. -/
def draw (c : Console) (address : String) (width height : Nat) : Grid :=
  let areas := Layout.ofSize width height
  Grid.blank width height
    |> drawBanner address areas.banner
    |> drawBudget c.budget areas.budget
    |> drawPanel " Configuration Status " c.cache.lines areas.status
    |> drawPanel " Webhook Integration " c.formLines areas.webhooks
    |> (·.write areas.toasts (toastLines c.toasts areas.toasts.height))
    |> drawKeyBar c.keyBar areas.keyBar

end Console

end Dashboard
