import AmountPad.Terminal.Keypad

/-!
# The grid of buttons in words

The coordinates of a terminal are words that end at `maxCoordinate`. Here the grid of a keypad, the
button at a point and the places of the labels are found by arithmetic on such words, in which a sum,
a difference or a product that is no coordinate is a fault, and so is a division by zero. Numbers of
rows, columns and characters may be of any size, and are cut off at the last coordinate where a word
is needed.

* `Word.add`, `Word.sub`, `Word.mul`, `Word.div`, `Word.saturate` — arithmetic on words;
* `Word.grid?`, `Word.keyCell`, `Word.controlCells` — the grid of a keypad and the cells of its
  buttons;
* `Word.hitTest` — which button a point belongs to;
* `Word.drawKeypad` — border, keys and controls.
-/

namespace AmountPad.Terminal

namespace Word

/-- An operation whose result is no word. -/
inductive Fault where
  | sum
  | difference
  | product
  | quotient
  deriving DecidableEq, Repr

def add (a b : Nat) : Except Fault Nat :=
  if a + b ≤ maxCoordinate then .ok (a + b) else .error .sum

def sub (a b : Nat) : Except Fault Nat := if b ≤ a then .ok (a - b) else .error .difference

def mul (a b : Nat) : Except Fault Nat :=
  if a * b ≤ maxCoordinate then .ok (a * b) else .error .product

def div (a b : Nat) : Except Fault Nat := if b = 0 then .error .quotient else .ok (a / b)

/-- The word closest to a number. -/
def saturate (n : Nat) : Nat := min n maxCoordinate

/-- What is inside the border of a rectangle. -/
def inner (area : Rect) : Rect :=
  ⟨saturate (area.x + 1), saturate (area.y + 1), area.width - 2, area.height - 2⟩

/-- The grid of a keypad in a rectangle. -/
def grid? (layout : Layout) (wired : Controls) (area : Rect) : Except Fault (Option Grid) := do
  let width ← div (inner area).width (saturate (max layout.cols 1))
  let height ← div (inner area).height (saturate (max (Grid.totalRows layout wired) 1))
  if width = 0 ∨ height = 0 then return none
  else return some ⟨inner area, width, height, layout.rows, layout.cols, wired.any⟩

/-- The cell of the key at a grid position. -/
def keyCell (g : Grid) (row col : Nat) : Except Fault Rect := do
  let x ← add g.inner.x (← mul (saturate col) g.width)
  let y ← add g.inner.y (← mul (saturate row) g.height)
  return ⟨x, y, g.width, g.height⟩

/-- The cells of the two controls, clear before backspace. -/
def controlCells (g : Grid) : Except Fault (Rect × Rect) := do
  let y ← add g.inner.y (← mul (saturate g.rows) g.height)
  let half ← div g.inner.width 2
  let middle ← add g.inner.x half
  let rest ← sub g.inner.width half
  return (⟨g.inner.x, y, half, g.height⟩, ⟨middle, y, rest, g.height⟩)

/-- The button at a point inside the border. -/
def buttonAt? (g : Grid) (wired : Controls) (x y : Nat) : Except Fault (Option Button) := do
  let row ← div (← sub y g.inner.y) g.height
  if row < g.rows then
    let col ← div (← sub x g.inner.x) g.width
    return if col < g.cols then some (.key (row * g.cols + col)) else none
  else if row = g.rows ∧ g.hasControls then
    let (_, right) ← controlCells g
    let control := if x < right.x then Control.clear else Control.backspace
    return if wired.permits (.ofControl control) then some (.control control) else none
  else return none

/-- The button to which a point of a keypad in a rectangle belongs. -/
def hitTest (layout : Layout) (wired : Controls) (area : Rect) (x y : Nat) :
    Except Fault (Option Button) := do
  match ← grid? layout wired area with
  | none => return none
  | some g =>
    let right ← add g.inner.x g.inner.width
    let bottom ← add g.inner.y g.inner.height
    if x < g.inner.x ∨ y < g.inner.y ∨ right ≤ x ∨ bottom ≤ y then return none
    else buttonAt? g wired x y

/-- A button with its label between brackets. -/
def drawButton (screen cell : Rect) (label : List Char) (style : Style) :
    Except Fault (List Stroke) := do
  let text := '[' :: (label ++ [']'])
  let width := saturate text.length
  if cell.width < width then return []
  else
    let x ← add cell.x (← div (← sub cell.width width) 2)
    let y ← add cell.y (← div cell.height 2)
    return write style x y (min (screen.right - x) cell.width) text

/-- A key of the layout. -/
def drawKey (screen : Rect) (g : Grid) (pressed : Option Button) (index : Nat) (key : Key) :
    Except Fault (List Stroke) := do
  drawButton screen (← keyCell g key.row key.col) key.label.toList
    (buttonStyle pressed (.key index))

/-- A control in its cell, if it is wired. -/
def drawControl (screen cell : Rect) (wired : Controls) (pressed : Option Button)
    (control : Control) : Except Fault (List Stroke) :=
  if wired.permits (.ofControl control) then
    drawButton screen cell (controlLabel control) (buttonStyle pressed (.control control))
  else return []

/-- A keypad in a rectangle of a screen. -/
def drawKeypad (screen : Rect) (layout : Layout) (wired : Controls) (pressed : Option Button)
    (area : Rect) : Except Fault (List Stroke) := do
  let frame := panel { foreground := some .cyan } " Keypad " area
  match ← grid? layout wired area with
  | none => return frame
  | some g =>
    let keys ← layout.keys.zipIdx.mapM fun key => drawKey screen g pressed key.2 key.1
    let (left, right) ← controlCells g
    let clear ← drawControl screen left wired pressed .clear
    let backspace ← drawControl screen right wired pressed .backspace
    return frame ++ (keys.flatten ++ clear ++ backspace)

end Word

end AmountPad.Terminal
