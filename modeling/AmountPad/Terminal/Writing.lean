import AmountPad.Terminal.Screen
import AmountPad.Text.Columns

/-!
# Writing on the terminal

Texts are written cluster by cluster, each in as many columns as it takes.

* `write` — a text from a column on, without its control characters;
* `Span`, `writeLine` — a line of styled texts in a rectangle, at its left or at its right end.
-/

namespace AmountPad.Terminal

open Text (clusters columns)

/-- Control characters. -/
def isControl (c : Char) : Bool := c.toNat < 0x20 || 0x7F ≤ c.toNat && c.toNat ≤ 0x9F

/-- The columns that a cluster covers besides its first are made blank. -/
def covered (x y width : Nat) : List Stroke :=
  (List.range' (x + 1) (width - 1)).map fun x => ⟨x, y, .blank⟩

/-- Clusters from a column on, up to the first one that goes beyond the columns that are left.
Clusters without a column are left out. -/
def writeClusters (style : Style) (y : Nat) : Nat → Nat → List (List Char) → List Stroke
  | _, _, [] => []
  | x, left, cluster :: rest =>
    let width := columns cluster
    if width = 0 then writeClusters style y x left rest
    else if left < width then []
    else
      ⟨x, y, .put cluster style⟩ :: covered x y width ++
        writeClusters style y (x + width) (left - width) rest

/-- A text from a column on, in at most so many columns. Clusters with a control character are left
out. -/
def write (style : Style) (x y left : Nat) (text : List Char) : List Stroke :=
  writeClusters style y x left ((clusters text).filter fun cluster => !cluster.any isControl)

/-- A text in a style. -/
structure Span where
  text : List Char
  style : Style := {}
  deriving DecidableEq, Repr

/-- A cluster of a line, with its style. -/
structure Piece where
  cluster : List Char
  style : Style
  deriving DecidableEq, Repr

def Piece.width (p : Piece) : Nat := columns p.cluster

/-- The clusters of a span; line feeds are left out. -/
def Span.pieces (s : Span) : List Piece :=
  ((clusters s.text).filter (· != ['\n'])).map fun cluster => ⟨cluster, s.style⟩

/-- The pieces of a line that fit into so many columns: those wider than the whole line are left
out, and the line ends at the first that goes beyond what is left. -/
def fitting (whole : Nat) : Nat → List Piece → List Piece
  | _, [] => []
  | left, p :: rest =>
    if whole < p.width then fitting whole left rest
    else if left < p.width then []
    else p :: fitting whole (left - p.width) rest

/-- The columns of a line. -/
def lineWidth (pieces : List Piece) : Nat := pieces.foldl (fun n p => n + p.width) 0

/-- The strokes of a line from a column on. -/
def writePieces (y : Nat) : Nat → List Piece → List Stroke
  | _, [] => []
  | x, p :: rest =>
    (if p.width = 0 then [] else [⟨x, y, .put p.cluster p.style⟩]) ++
      writePieces y (x + p.width) rest

/-- The end of a line at which its text stands. -/
inductive Alignment where
  | left
  | right
  deriving DecidableEq, Repr

/-- A line of spans in the first row of a rectangle. -/
def writeLine (alignment : Alignment) (spans : List Span) (r : Rect) : List Stroke :=
  if r.isEmpty then []
  else
    let pieces := fitting r.width r.width (spans.flatMap Span.pieces)
    let offset := match alignment with
      | .left => 0
      | .right => r.width - lineWidth pieces
    writePieces r.y (r.x + offset) pieces

end AmountPad.Terminal
