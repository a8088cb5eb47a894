import AmountPad.Terminal.App
import AmountPad.Terminal.Keypad

/-!
# The app on the terminal

Inside an outer border the app shows the amount, the keypad and a line of help, from top to bottom.
The keypad has at least eight rows as long as there are so many; then the amount gets its three rows
and the help its one, and what is left goes to the keypad.

* `Sections.of` — how the rows are shared out;
* `App.draw` — the whole app on a screen.
-/

namespace AmountPad.Terminal

/-- The three parts of the app. -/
structure Sections where
  amount : Rect
  keypad : Rect
  help : Rect
  deriving DecidableEq, Repr

namespace Sections

/-- The rows of the amount, of the keypad and of the help, of so many in all. -/
def heights (all : Nat) : Nat × Nat × Nat :=
  let keypad := min all (max 8 (all - 4))
  let amount := min 3 (all - keypad)
  (amount, keypad, all - keypad - amount)

/-- The parts of the app on a screen. -/
def of (screen : Rect) : Sections :=
  let r := screen.shrink
  let (amount, keypad, help) := heights r.height
  ⟨⟨r.x, r.y, r.width, amount⟩, ⟨r.x, r.y + amount, r.width, keypad⟩,
    ⟨r.x, r.y + amount + keypad, r.width, help⟩⟩

end Sections

/-- The part of a screen that the keypad takes. -/
def keypadArea (screen : Rect) : Rect := (Sections.of screen).keypad

def helpText : String := "digits: type  Bksp: delete  Esc: clear  click: press  q: quit"

/-- The amount in words: a grey zero stands for an empty one. -/
def amountSpans (a : Amount) : List Span :=
  let number : Span :=
    if a.isEmpty then ⟨['0'], { foreground := some .darkGray }⟩
    else ⟨a.text.toList, { foreground := some .green, bold := true }⟩
  [number, ⟨[' ', 's', 'a', 't', 's'], {}⟩]

/-- The panel that shows the amount, at its right end. -/
def drawAmount (a : Amount) (r : Rect) : List Stroke :=
  panel { foreground := some .yellow } " Amount " r ++ writeLine .right (amountSpans a) r.inner

/-- The line of help. -/
def drawHelp (r : Rect) : List Stroke :=
  writeLine .left [⟨helpText.toList, { foreground := some .gray }⟩] r

/-- The app on a screen. -/
def App.draw (app : App) (screen : Rect) : Screen :=
  let sections := Sections.of screen
  ⟨screen, panel { foreground := some .white } " satpad " screen ++
    drawAmount app.amount sections.amount ++
    drawKeypad screen app.layout app.controls app.pressed sections.keypad ++
    drawHelp sections.help⟩

end AmountPad.Terminal
