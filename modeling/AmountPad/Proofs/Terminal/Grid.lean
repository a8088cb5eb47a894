import Mathlib
import AmountPad.Terminal.Grid

/-!
# Cells and the hit test

Every button of a keypad has a cell inside the border, and a point belongs to the button in whose
cell it lies. So the cells of two buttons have no point in common, and none of them reaches the
border.

* `Grid.cell`, `Grid.Has` — the cell of a button, and whether the pad has the button;
* `Grid.Divides` — how a grid divides the inside of a rectangle.

Main result:

* `hitTest_eq_some_iff` — the points of a button are those of its cell.
-/

namespace AmountPad.Terminal

namespace Grid

/-- The cell of a button. -/
def cell (g : Grid) : Button → Rect
  | .key index => g.keyCell (index / g.cols) (index % g.cols)
  | .control control => g.controlCell control

/-- All cells are of one height. -/
theorem height_cell (g : Grid) (b : Button) : (g.cell b).height = g.height := by
  cases b with
  | key index => rfl
  | control control => cases control <;> rfl

/-- Whether a pad has a button. -/
def Has (g : Grid) (wired : Controls) : Button → Prop
  | .key index => index < g.rows * g.cols
  | .control control => wired.permits (.ofControl control) = true

/-- How a grid divides the inside of a rectangle. The divisions may leave something over at the
right and at the bottom. -/
structure Divides (g : Grid) (layout : Layout) (wired : Controls) (area : Rect) : Prop where
  inner_eq : g.inner = area.inner
  rows_eq : g.rows = layout.rows
  cols_eq : g.cols = layout.cols
  hasControls_eq : g.hasControls = wired.any
  width_pos : 0 < g.width
  height_pos : 0 < g.height
  width_le : g.cols * g.width ≤ g.inner.width
  height_le : g.rows * g.height + (if g.hasControls then g.height else 0) ≤ g.inner.height

/-- The grid of a keypad divides the rectangle that the keypad is in. -/
theorem divides_of_of? {g : Grid} {layout : Layout} {wired : Controls} {area : Rect}
    (h : of? layout wired area = some g) : g.Divides layout wired area := by
  unfold of? at h
  dsimp only at h
  split at h
  · exact nomatch h
  · next hroom =>
    obtain rfl := Option.some.inj h
    rw [not_or] at hroom
    have hwidth := Nat.mul_div_le area.inner.width layout.cols
    have hheight := Nat.mul_div_le area.inner.height (totalRows layout wired)
    refine ⟨rfl, rfl, rfl, rfl, Nat.pos_of_ne_zero hroom.1, Nat.pos_of_ne_zero hroom.2, hwidth, ?_⟩
    cases hany : wired.any
    · simpa [totalRows, hany] using hheight
    · simpa [totalRows, hany, Nat.add_mul] using hheight

namespace Divides

variable {g : Grid} {layout : Layout} {wired : Controls} {area : Rect}
  (hg : g.Divides layout wired area)
include hg

/-- A point of a key's cell is told by the divisions of its coordinates. -/
theorem contains_keyCell_iff {row col x y : Nat} :
    (g.keyCell row col).contains x y = true ↔
      g.inner.x ≤ x ∧ g.inner.y ≤ y ∧ (x - g.inner.x) / g.width = col ∧
        (y - g.inner.y) / g.height = row := by
  rw [Rect.contains_iff, Nat.div_eq_iff hg.width_pos, Nat.div_eq_iff hg.height_pos]
  have hwidth := hg.width_pos
  have hheight := hg.height_pos
  simp only [keyCell, Rect.right, Rect.bottom]
  omega

/-- Where a control is wired there is a row for it. -/
theorem hasControls_of_permits {control : Control}
    (h : wired.permits (.ofControl control) = true) : g.hasControls = true := by
  rw [hg.hasControls_eq, Controls.any, Bool.or_eq_true]
  cases control
  · exact .inl h
  · exact .inr h

/-- Cells lie inside the border. -/
theorem contains_inner {b : Button} {x y : Nat} (hb : g.Has wired b)
    (hc : (g.cell b).contains x y = true) : g.inner.contains x y = true := by
  have hwidth := hg.width_le
  have hheight := hg.height_le
  cases b with
  | key index =>
    have hcols : 0 < g.cols := Nat.pos_of_mul_pos_left (Nat.zero_lt_of_lt hb)
    -- there is room for the key's column and for its row
    have hcol : (index % g.cols + 1) * g.width ≤ g.cols * g.width :=
      Nat.mul_le_mul_right _ (Nat.mod_lt _ hcols)
    have hrow : (index / g.cols + 1) * g.height ≤ g.rows * g.height :=
      Nat.mul_le_mul_right _ ((Nat.div_lt_iff_lt_mul hcols).mpr hb)
    rw [Nat.add_mul] at hcol hrow
    rw [cell, keyCell, Rect.contains_iff] at hc
    rw [Rect.contains_iff]
    simp only [Rect.right, Rect.bottom] at hc ⊢
    omega
  | control control =>
    rw [if_pos (hg.hasControls_of_permits hb)] at hheight
    rw [cell, Rect.contains_iff] at hc
    rw [Rect.contains_iff]
    -- the right half takes what the division leaves over, and ends where the inside does
    cases control with
    | clear =>
      simp only [controlCell, Rect.right, Rect.bottom] at hc ⊢
      omega
    | backspace =>
      simp only [controlCell, middle, Rect.right, Rect.bottom] at hc ⊢
      omega

/-- Inside the border a point belongs to the key in whose cell it lies. -/
theorem buttonAt?_eq_key_iff {index x y : Nat} (hin : g.inner.contains x y = true) :
    g.buttonAt? wired x y = some (.key index) ↔
      index < g.rows * g.cols ∧ (g.cell (.key index)).contains x y = true := by
  obtain ⟨hx, -, hy, -⟩ := Rect.contains_iff.mp hin
  rw [cell, hg.contains_keyCell_iff, buttonAt?]
  dsimp only
  -- from here on the point is the row and the column in which it lies
  generalize (x - g.inner.x) / g.width = col
  generalize (y - g.inner.y) / g.height = row
  constructor
  · intro h
    split at h
    case isFalse =>
      -- a point below the keys belongs to a control, if to any button
      split at h
      · simp at h
      · exact nomatch h
    case isTrue hrow =>
      split at h
      case isFalse => exact nomatch h
      case isTrue hcol =>
        -- row and column are quotient and remainder of the index, since the column is in the row
        obtain rfl : row * g.cols + col = index := Button.key.inj (Option.some.inj h)
        have hlt : row * g.cols + col < (row + 1) * g.cols := by
          rw [Nat.add_mul]
          omega
        refine ⟨Nat.lt_of_lt_of_le hlt (Nat.mul_le_mul_right _ hrow), hx, hy, ?_, ?_⟩
        · rw [Nat.mul_add_mod_self_right, Nat.mod_eq_of_lt hcol]
        · rw [Nat.add_comm, Nat.add_mul_div_right _ _ (Nat.zero_lt_of_lt hcol),
            Nat.div_eq_of_lt hcol, Nat.zero_add]
  · rintro ⟨hindex, -, -, rfl, rfl⟩
    have hcols : 0 < g.cols := Nat.pos_of_mul_pos_left (Nat.zero_lt_of_lt hindex)
    rw [if_pos ((Nat.div_lt_iff_lt_mul hcols).mpr hindex), if_pos (Nat.mod_lt _ hcols),
      Nat.div_add_mod']

/-- A point of a control's cell is in the row behind those of the keys, and in the half of the
control. -/
theorem contains_controlCell_iff {control : Control} {x y : Nat}
    (hin : g.inner.contains x y = true) :
    (g.controlCell control).contains x y = true ↔
      (y - g.inner.y) / g.height = g.rows ∧
        (if x < g.middle then Control.clear else .backspace) = control := by
  obtain ⟨hleft, hright, htop, -⟩ := Rect.contains_iff.mp hin
  have hheight := hg.height_pos
  rw [Rect.contains_iff, Nat.div_eq_iff hheight]
  -- in each half, the cell of one control has the column and that of the other has not
  by_cases hx : x < g.middle
  · rw [if_pos hx]
    rw [middle] at hx
    cases control
    · simp only [controlCell, Rect.right, Rect.bottom, and_true]
      omega
    · simp only [controlCell, middle, reduceCtorEq, and_false, iff_false]
      omega
  · rw [if_neg hx]
    rw [middle] at hx
    rw [Rect.right] at hright
    cases control
    · simp only [controlCell, Rect.right, reduceCtorEq, and_false, iff_false]
      omega
    · simp only [controlCell, middle, Rect.right, Rect.bottom, and_true]
      omega

/-- Inside the border a point belongs to the control in whose cell it lies, if the control is
wired. -/
theorem buttonAt?_eq_control_iff {control : Control} {x y : Nat}
    (hin : g.inner.contains x y = true) :
    g.buttonAt? wired x y = some (.control control) ↔
      wired.permits (.ofControl control) = true ∧
        (g.cell (.control control)).contains x y = true := by
  rw [cell, hg.contains_controlCell_iff hin, buttonAt?]
  dsimp only
  generalize (y - g.inner.y) / g.height = row
  generalize (if x < g.middle then Control.clear else .backspace) = found
  by_cases hrow : row < g.rows
  · -- a point of the rows of keys belongs to a key, if to any button
    rw [if_pos hrow]
    refine ⟨fun h => ?_, fun h => absurd h.2.1 (Nat.ne_of_lt hrow)⟩
    split at h
    · simp at h
    · exact nomatch h
  · rw [if_neg hrow]
    constructor
    · intro h
      split at h
      case isFalse => exact nomatch h
      case isTrue hcontrols =>
        split at h
        case isFalse => exact nomatch h
        case isTrue hwired =>
          -- below the keys, the half of the row tells the control
          obtain rfl := Button.control.inj (Option.some.inj h)
          exact ⟨hwired, hcontrols.1, rfl⟩
    · rintro ⟨hwired, rfl, rfl⟩
      rw [if_pos ⟨rfl, hg.hasControls_of_permits hwired⟩, if_pos hwired]

/-- Inside the border a point belongs to the button in whose cell it lies. -/
theorem buttonAt?_eq_some_iff {b : Button} {x y : Nat} (hin : g.inner.contains x y = true) :
    g.buttonAt? wired x y = some b ↔ g.Has wired b ∧ (g.cell b).contains x y = true := by
  cases b with
  | key index => exact hg.buttonAt?_eq_key_iff hin
  | control control => exact hg.buttonAt?_eq_control_iff hin

end Divides

end Grid

/-- The points of a button are those of its cell. -/
theorem hitTest_eq_some_iff {g : Grid} {layout : Layout} {wired : Controls} {area : Rect}
    (h : Grid.of? layout wired area = some g) {b : Button} {x y : Nat} :
    hitTest layout wired area x y = some b ↔ g.Has wired b ∧ (g.cell b).contains x y = true := by
  have hg := Grid.divides_of_of? h
  rw [hitTest, h]
  dsimp only
  by_cases hin : g.inner.contains x y = true
  · rw [if_pos hin, hg.buttonAt?_eq_some_iff hin]
  · rw [if_neg hin]
    exact ⟨nofun, fun hb => absurd (hg.contains_inner hb.1 hb.2) hin⟩

end AmountPad.Terminal
