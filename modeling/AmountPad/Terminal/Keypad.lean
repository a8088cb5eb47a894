import AmountPad.Terminal.Grid
import AmountPad.Terminal.Panel
import AmountPad.Terminal.Writing

/-!
# The keypad on the terminal

* `buttonStyle` — the colours of a button: the one pressed last stands out;
* `drawButton` — a label between brackets in the middle of its cell, if it has room there;
* `drawKeypad` — border, keys and controls.
-/

namespace AmountPad.Terminal

def controlLabel : Control → List Char
  | .clear => ['C']
  | .backspace => ['⌫']

/-- The style of the button that was pressed last. -/
def pressedStyle : Style := ⟨some .black, some .yellow, true⟩

/-- The style of a button. -/
def buttonStyle (pressed : Option Button) (b : Button) : Style :=
  if pressed = some b then pressedStyle
  else match b with
    | .key _ => { foreground := some .white }
    | .control .clear => { foreground := some .red }
    | .control .backspace => { foreground := some .magenta }

/-- A button with its label between brackets. Whether there is room is told by the number of
characters, and the text goes on beyond the cell where they take more columns; what follows the last
column of the screen is left out. -/
def drawButton (screen cell : Rect) (label : List Char) (style : Style) : List Stroke :=
  let text := '[' :: (label ++ [']'])
  let width := text.length
  if cell.width < width then []
  else
    let x := cell.x + (cell.width - width) / 2
    write style x (cell.y + cell.height / 2) (min (screen.right - x) cell.width) text

/-- A key of the layout. -/
def drawKey (screen : Rect) (g : Grid) (pressed : Option Button) (index : Nat) (key : Key) :
    List Stroke :=
  drawButton screen (g.keyCell key.row key.col) key.label.toList (buttonStyle pressed (.key index))

/-- A control, if it is wired. -/
def drawControl (screen : Rect) (g : Grid) (wired : Controls) (pressed : Option Button)
    (control : Control) : List Stroke :=
  if wired.permits (.ofControl control) then
    drawButton screen (g.controlCell control) (controlLabel control)
      (buttonStyle pressed (.control control))
  else []

/-- The buttons, keys before controls. -/
def drawButtons (screen : Rect) (g : Grid) (layout : Layout) (wired : Controls)
    (pressed : Option Button) : List Stroke :=
  (layout.keys.mapIdx (drawKey screen g pressed)).flatten ++
    drawControl screen g wired pressed .clear ++ drawControl screen g wired pressed .backspace

/-- A keypad in a rectangle of a screen. -/
def drawKeypad (screen : Rect) (layout : Layout) (wired : Controls) (pressed : Option Button)
    (area : Rect) : List Stroke :=
  panel { foreground := some .cyan } " Keypad " area ++
    match Grid.of? layout wired area with
    | none => []
    | some g => drawButtons screen g layout wired pressed

end AmountPad.Terminal
