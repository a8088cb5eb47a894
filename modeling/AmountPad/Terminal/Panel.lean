import AmountPad.Terminal.Screen

/-!
# Panels

A panel is a border with a title in its upper edge.

* `panel` — the strokes of a border and its title. Of a panel without height or width nothing is
  drawn; edges of small panels fall together, and corners go over edges.
-/

namespace AmountPad.Terminal

/-- One symbol in a style. -/
def Stroke.put (style : Style) (x y : Nat) (symbol : Char) : Stroke :=
  ⟨x, y, .put [symbol] style⟩

/-- Symbols side by side, from a column on. -/
def inscribe (style : Style) (x y : Nat) (text : List Char) : List Stroke :=
  text.mapIdx fun i c => .put style (x + i) y c

/-- The edges and corners of a border. -/
def border (style : Style) (r : Rect) : List Stroke :=
  let columns := List.range' r.x r.width
  let rows := List.range' r.y r.height
  let lastX := r.right - 1
  let lastY := r.bottom - 1
  rows.map (fun y => .put style r.x y '│') ++ columns.map (fun x => .put style x r.y '─') ++
    rows.map (fun y => .put style lastX y '│') ++ columns.map (fun x => .put style x lastY '─') ++
    [.put style lastX lastY '┘', .put style lastX r.y '┐', .put style r.x lastY '└',
      .put style r.x r.y '┌']

/-- A border with as much of a title as fits between its upper corners. The title takes on the look
of the border. -/
def panel (style : Style) (title : String) (r : Rect) : List Stroke :=
  if r.isEmpty then []
  else border style r ++ inscribe {} (r.x + 1) r.y (title.toList.take (r.width - 2))

end AmountPad.Terminal
