import AmountPad.Terminal.Rect

/-!
# Screens

A picture on the terminal is a list of strokes, each of which changes one cell; later strokes go
over earlier ones. A screen is what is seen of them in a rectangle of blank cells.

* `Style`, `Cell`, `Stroke` — how a cell looks, and what changes it;
* `cellAt` — a cell after a list of strokes;
* `Screen.lines`, `Screen.runs` — the symbols row by row, and the stretches of equal style.
-/

namespace AmountPad.Terminal

inductive Color where
  | reset
  | black
  | red
  | green
  | yellow
  | magenta
  | cyan
  | gray
  | darkGray
  | white
  deriving DecidableEq, Repr

def Color.name : Color → String
  | .reset => "Reset"
  | .black => "Black"
  | .red => "Red"
  | .green => "Green"
  | .yellow => "Yellow"
  | .magenta => "Magenta"
  | .cyan => "Cyan"
  | .gray => "Gray"
  | .darkGray => "DarkGray"
  | .white => "White"

/-- How a cell looks. -/
structure Look where
  foreground : Color := .reset
  background : Color := .reset
  bold : Bool := false
  deriving DecidableEq, Repr

/-- A change of look; what it leaves open stays as it was. -/
structure Style where
  foreground : Option Color := none
  background : Option Color := none
  bold : Bool := false
  deriving DecidableEq, Repr

/-- The look that a style makes of another. -/
def Style.apply (s : Style) (l : Look) : Look :=
  ⟨s.foreground.getD l.foreground, s.background.getD l.background, s.bold || l.bold⟩

structure Cell where
  symbol : List Char := [' ']
  look : Look := {}
  deriving DecidableEq, Repr

/-- What a stroke does to its cell. -/
inductive Ink where
  /-- Writes a symbol over the one that is there. -/
  | put (symbol : List Char) (style : Style)
  /-- Makes the cell blank. -/
  | blank
  deriving DecidableEq, Repr

def Ink.apply : Ink → Cell → Cell
  | .put symbol style, cell => ⟨symbol, style.apply cell.look⟩
  | .blank, _ => {}

/-- A change of the cell in column `x` of row `y`. -/
structure Stroke where
  x : Nat
  y : Nat
  ink : Ink
  deriving DecidableEq, Repr

/-- The cell in a column after strokes that all belong to its row. -/
def cellIn (row : List Stroke) (x : Nat) : Cell :=
  row.foldl (fun cell s => if s.x = x then s.ink.apply cell else cell) {}

/-- The strokes of a row. -/
def rowOf (strokes : List Stroke) (y : Nat) : List Stroke := strokes.filter (·.y == y)

/-- A cell after a list of strokes. -/
def cellAt (strokes : List Stroke) (x y : Nat) : Cell := cellIn (rowOf strokes y) x

/-- What is seen in a rectangle of blank cells. -/
structure Screen where
  area : Rect
  strokes : List Stroke
  deriving DecidableEq, Repr

/-- Neighbouring cells of one row that look alike, counted from the corner of the screen. -/
structure Run where
  row : Nat
  column : Nat
  length : Nat
  look : Look
  deriving DecidableEq, Repr

namespace Screen

/-- The cells, row by row. -/
def cells (s : Screen) : List (List Cell) :=
  (List.range' s.area.y s.area.height).map fun y =>
    let row := rowOf s.strokes y
    (List.range' s.area.x s.area.width).map (cellIn row)

/-- The symbols, row by row. -/
def lines (s : Screen) : List String :=
  s.cells.map fun row => String.ofList (row.flatMap Cell.symbol)

/-- The stretches of equal look in a row of looks that starts at a column. Cells of the plain look
belong to none. -/
def runsIn (row : Nat) : Nat → List Look → List Run
  | _, [] => []
  | column, look :: rest =>
    let others := runsIn row (column + 1) rest
    if look = {} then others
    else match others with
      | r :: more =>
        if r.column = column + 1 ∧ r.look = look then ⟨row, column, r.length + 1, look⟩ :: more
        else ⟨row, column, 1, look⟩ :: others
      | [] => [⟨row, column, 1, look⟩]

/-- The stretches of equal look, row by row. -/
def runs (s : Screen) : List Run :=
  (s.cells.zipIdx.map fun (row, index) => runsIn index 0 (row.map Cell.look)).flatten

end Screen

end AmountPad.Terminal
