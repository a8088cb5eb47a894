/-!
# Rectangles

Rectangles on a grid of terminal cells. Coordinates of a terminal end at `maxCoordinate`.

* `Rect.clipped` — the rectangle that fits on the grid;
* `Rect.inner`, `Rect.shrink` — what is left inside a border or a margin.
-/

namespace AmountPad.Terminal

/-- The largest coordinate. -/
def maxCoordinate : Nat := 65535

structure Rect where
  x : Nat
  y : Nat
  width : Nat
  height : Nat
  deriving DecidableEq, Repr

namespace Rect

/-- The empty rectangle at the origin. -/
def zero : Rect := ⟨0, 0, 0, 0⟩

/-- A rectangle without what would reach beyond the last coordinate. -/
def clipped (x y width height : Nat) : Rect :=
  ⟨x, y, min width (maxCoordinate - x), min height (maxCoordinate - y)⟩

/-- The first column behind the rectangle. -/
def right (r : Rect) : Nat := r.x + r.width

/-- The first row below the rectangle. -/
def bottom (r : Rect) : Nat := r.y + r.height

def isEmpty (r : Rect) : Bool := r.width == 0 || r.height == 0

def contains (r : Rect) (x y : Nat) : Bool :=
  r.x ≤ x && x < r.right && r.y ≤ y && y < r.bottom

/-- Whether the rectangle ends before the last coordinate. -/
def Fits (r : Rect) : Prop := r.right ≤ maxCoordinate ∧ r.bottom ≤ maxCoordinate

/-- What is left inside a border of one cell. -/
def inner (r : Rect) : Rect := ⟨r.x + 1, r.y + 1, r.width - 2, r.height - 2⟩

/-- What is left inside a margin of one cell; the margin of a smaller rectangle leaves nothing. -/
def shrink (r : Rect) : Rect := if r.width < 2 ∨ r.height < 2 then zero else r.inner

theorem clipped_fits {x y : Nat} (width height : Nat) (hx : x ≤ maxCoordinate)
    (hy : y ≤ maxCoordinate) : (clipped x y width height).Fits := by
  constructor <;> simp only [clipped, right, bottom] <;> omega

theorem contains_iff {r : Rect} {x y : Nat} :
    r.contains x y = true ↔ r.x ≤ x ∧ x < r.right ∧ r.y ≤ y ∧ y < r.bottom := by
  simp [contains, and_assoc]

end Rect

end AmountPad.Terminal
