/-!
# Colours and styles

A cell of the screen has a look; a style says what to change about it. What
a style leaves open stays as it was, and nothing makes a bold cell thin
again.

## Main definitions

* `Color`, `Look`, `Style`.
* `Look.restyle` — a look after a style was set on it.
-/

namespace Dashboard.Screen

/-- A colour of the terminal. -/
inductive Color where
  /-- The colour that the terminal has by itself. -/
  | reset
  | black
  | red
  | green
  | yellow
  | cyan
  | white
  | darkGray
  deriving DecidableEq

/-- How a cell is drawn. -/
structure Look where
  foreground : Color
  background : Color
  bold : Bool
  deriving DecidableEq

/-- The look of a cell on which no style was set. -/
def Look.plain : Look := ⟨.reset, .reset, false⟩

/-- What to change about the look of a cell. -/
structure Style where
  foreground : Option Color
  background : Option Color
  bold : Bool
  deriving DecidableEq

/-- Nothing is changed. -/
def Style.none : Style := ⟨.none, .none, false⟩

/-- A colour for what is written. -/
def Style.color (c : Color) : Style := ⟨some c, .none, false⟩

/-- A colour for what is written, in bold. -/
def Style.bright (c : Color) : Style := ⟨some c, .none, true⟩

/-- A look after a style was set on it. -/
def Look.restyle (l : Look) (s : Style) : Look :=
  ⟨s.foreground.getD l.foreground, s.background.getD l.background, l.bold || s.bold⟩

@[simp] theorem Look.restyle_none (l : Look) : l.restyle .none = l := by
  simp [Look.restyle, Style.none]

/-- Setting a style twice is the same as setting it once. -/
@[simp] theorem Look.restyle_restyle (l : Look) (s : Style) :
    (l.restyle s).restyle s = l.restyle s := by
  cases s with
  | mk f b d => cases f <;> cases b <;> simp [Look.restyle]

end Dashboard.Screen
