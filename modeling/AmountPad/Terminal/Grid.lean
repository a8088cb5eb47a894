import AmountPad.Button
import AmountPad.Terminal.Rect

/-!
# The grid of buttons

Inside its border a keypad is divided into equal cells, one for each key. A pad with a control has
one more row, whose left half belongs to the clear control and whose right half to the backspace.

* `Grid.of?` — the grid of a keypad in a rectangle; there is none where a button would have no room;
* `Grid.keyCell`, `Grid.controlCell` — where the buttons are;
* `hitTest` — which button a point belongs to.
-/

namespace AmountPad.Terminal

/-- Where the buttons of a keypad are. -/
structure Grid where
  /-- What is inside the border. -/
  inner : Rect
  /-- The size of the cell of a key. -/
  width : Nat
  height : Nat
  /-- The rows and columns of keys. -/
  rows : Nat
  cols : Nat
  hasControls : Bool
  deriving DecidableEq, Repr

namespace Grid

/-- The rows of buttons, with that of the controls if there is one. -/
def totalRows (layout : Layout) (wired : Controls) : Nat :=
  layout.rows + if wired.any then 1 else 0

/-- The grid of a keypad in a rectangle. -/
def of? (layout : Layout) (wired : Controls) (area : Rect) : Option Grid :=
  let inner := area.inner
  let width := inner.width / layout.cols
  let height := inner.height / totalRows layout wired
  if width = 0 ∨ height = 0 then none
  else some ⟨inner, width, height, layout.rows, layout.cols, wired.any⟩

/-- The cell of the key at a grid position. -/
def keyCell (g : Grid) (row col : Nat) : Rect :=
  ⟨g.inner.x + col * g.width, g.inner.y + row * g.height, g.width, g.height⟩

/-- The column in which the right half of the row of controls starts. -/
def middle (g : Grid) : Nat := g.inner.x + g.inner.width / 2

/-- The cell of a control. -/
def controlCell (g : Grid) : Control → Rect
  | .clear => ⟨g.inner.x, g.inner.y + g.rows * g.height, g.inner.width / 2, g.height⟩
  | .backspace =>
    ⟨g.middle, g.inner.y + g.rows * g.height, g.inner.width - g.inner.width / 2, g.height⟩

/-- The button at a point inside the border. -/
def buttonAt? (g : Grid) (wired : Controls) (x y : Nat) : Option Button :=
  let row := (y - g.inner.y) / g.height
  if row < g.rows then
    let col := (x - g.inner.x) / g.width
    if col < g.cols then some (.key (row * g.cols + col)) else none
  else if row = g.rows ∧ g.hasControls then
    let control := if x < g.middle then Control.clear else Control.backspace
    if wired.permits (.ofControl control) then some (.control control) else none
  else none

end Grid

/-- The button to which a point of a keypad in a rectangle belongs. -/
def hitTest (layout : Layout) (wired : Controls) (area : Rect) (x y : Nat) : Option Button :=
  match Grid.of? layout wired area with
  | none => none
  | some g => if g.inner.contains x y then g.buttonAt? wired x y else none

end AmountPad.Terminal
