import Mathlib
import AmountPad.Proofs.Layout.Lookup
import AmountPad.Proofs.Terminal.ButtonGrid
import AmountPad.Proofs.Terminal.Keypad

/-!
# Drawing a keypad in words

The places of the labels are found by sums, products and quotients of coordinates, and these are
words that must not leave their range on the way. They do not where the rectangle of the keypad ends
before the last coordinate: the cells of the buttons lie inside its border, and each text starts in
its cell. A number of characters that is no word is cut off at the last coordinate, but so wide is no
cell.

* `Word.start?` — where the text of a button starts.

Main results:

* `Word.start?_eq`, `Word.drawButton_eq` — a button in a cell that ends before the last coordinate;
* `Word.keyCell_eq` — the cells of the keys are of this kind;
* `Word.drawKeypad_eq` — drawing in words never fails, and draws what is drawn without them.
-/

namespace AmountPad.Terminal

namespace Word

/-- The point at which the text of a button starts, if there is room for the text. -/
def start? (cell : Rect) (label : List Char) : Except Fault (Option (Nat × Nat)) := do
  let width := saturate (bracketed label).length
  if cell.width < width then return none
  else
    let x ← add cell.x (← div (← sub cell.width width) 2)
    let y ← add cell.y (← div cell.height 2)
    return some (x, y)

/-- In a cell that ends before the last coordinate, the start is found without a fault. -/
theorem start?_eq {cell : Rect} (hcell : cell.Fits) (hwidth : cell.width < maxCoordinate)
    (label : List Char) : start? cell label =
      .ok (if cell.width < (bracketed label).length then none
        else some (cell.x + (cell.width - (bracketed label).length) / 2,
          cell.y + cell.height / 2)) := by
  obtain ⟨hright, hbottom⟩ := hcell
  unfold Rect.right at hright
  unfold Rect.bottom at hbottom
  unfold start?
  dsimp only
  by_cases hroom : cell.width < (bracketed label).length
  · -- the last coordinate has more columns than the cell, too
    have hcut : cell.width < saturate (bracketed label).length := Nat.lt_min.mpr ⟨hroom, hwidth⟩
    rw [if_pos hroom, if_pos hcut]
    rfl
  · -- a label that fits into the cell is shorter than the last coordinate
    have hsame : saturate (bracketed label).length = (bracketed label).length :=
      saturate_of_le (by omega)
    rw [hsame, if_neg hroom, if_neg hroom, sub_of_le (by omega), ok_bind, div_of_pos Nat.two_pos,
      ok_bind, add_of_le (by omega), ok_bind, div_of_pos Nat.two_pos, ok_bind,
      add_of_le (by omega), ok_bind]
    rfl

/-- A button is drawn by writing its text from the start on. -/
theorem drawButton_eq_bind (screen cell : Rect) (label : List Char) (style : Style) :
    drawButton screen cell label style = start? cell label >>= fun
      | none => .ok []
      | some (x, y) =>
        .ok (write style x y (min (screen.right - x) cell.width) (bracketed label)) := by
  unfold drawButton start?
  dsimp only
  rw [← bracketed]
  by_cases hroom : cell.width < saturate (bracketed label).length
  · rw [if_pos hroom, if_pos hroom]
    rfl
  · rw [if_neg hroom, if_neg hroom]
    simp only [bind_assoc]
    rfl

/-- The text of a button is written in words as it is without them. -/
theorem drawButton_eq {screen cell : Rect} {label : List Char} {style : Style} (hcell : cell.Fits)
    (hwidth : cell.width < maxCoordinate) :
    drawButton screen cell label style = .ok (Terminal.drawButton screen cell label style) := by
  rw [drawButton_eq_bind, start?_eq hcell hwidth, ok_bind, Terminal.drawButton]
  dsimp only
  rw [← bracketed]
  by_cases hroom : cell.width < (bracketed label).length
  · rw [if_pos hroom, if_pos hroom]
  · rw [if_neg hroom, if_neg hroom]

section

variable {layout : Layout} {wired : Controls} {area : Rect} {g : Grid}
  (hg : g.Divides layout wired area) (hlayout : layout.IsGrid) (hfits : area.Fits)
include hg hlayout hfits

/-- The cell of a key in words is the cell of the key, and it ends where its grid does or before. -/
theorem keyCell_eq {row col : Nat} (hrow : row < layout.rows) (hcol : col < layout.cols) :
    keyCell g row col = .ok (g.keyCell row col) ∧ (g.keyCell row col).Fits := by
  obtain ⟨hright, hbottom⟩ := inner_fits hg hlayout hfits
  unfold Rect.right at hright
  unfold Rect.bottom at hbottom
  have hwidth : (col + 1) * g.width ≤ g.inner.width :=
    Nat.le_trans (Nat.mul_le_mul_right _ (hg.cols_eq ▸ hcol)) hg.width_le
  have hheight : (row + 1) * g.height ≤ g.inner.height :=
    Nat.le_trans (Nat.mul_le_mul_right _ (hg.rows_eq ▸ hrow))
      (Nat.le_trans (Nat.le_add_right _ _) hg.height_le)
  -- the row and the column are coordinates, since there is a line and a column for each
  have hcols : col ≤ col * g.width := Nat.le_mul_of_pos_right _ hg.width_pos
  have hrows : row ≤ row * g.height := Nat.le_mul_of_pos_right _ hg.height_pos
  rw [Nat.succ_mul] at hwidth hheight
  constructor
  · rw [keyCell, saturate_of_le (by omega), mul_of_le (by omega), ok_bind, add_of_le (by omega),
      ok_bind, saturate_of_le (by omega), mul_of_le (by omega), ok_bind, add_of_le (by omega),
      ok_bind]
    rfl
  · unfold Rect.Fits Rect.right Rect.bottom Grid.keyCell
    dsimp only
    omega

/-- Cells and the grid as a whole have fewer columns than there are coordinates. -/
theorem width_lt : g.width < maxCoordinate ∧ g.inner.width < maxCoordinate := by
  -- the border takes two columns of a rectangle that ends before the last coordinate
  obtain ⟨hright, -⟩ := hfits
  have hle := hg.width_le
  have hpos := hg.width_pos
  have hcols : g.width ≤ g.cols * g.width :=
    Nat.le_mul_of_pos_left _ (hg.cols_eq ▸ hlayout.cols_pos)
  unfold Rect.right at hright
  rw [hg.inner_eq] at hle ⊢
  unfold Rect.inner at hle ⊢
  dsimp only at hle ⊢
  omega

/-- A key is drawn without a fault, as the unbounded drawing has it. -/
theorem drawKey_eq {screen : Rect} {pressed : Option Button} {index : Nat} {key : Key}
    (hkey : layout.key? index = some key) :
    drawKey screen g pressed index key = .ok (Terminal.drawKey screen g pressed index key) := by
  obtain ⟨hrow, hcol, -⟩ := hlayout.place_of_mem (List.mem_of_getElem? hkey)
  obtain ⟨hcell, hfitting⟩ := keyCell_eq hg hlayout hfits hrow hcol
  rw [drawKey, hcell, ok_bind, drawButton_eq hfitting (width_lt hg hlayout hfits).1]
  rfl

/-- The cell of a control that is wired ends where its grid does or before. -/
theorem controlCell_fits {control : Control} (hwired : wired.permits (.ofControl control) = true) :
    (g.controlCell control).Fits ∧ (g.controlCell control).width < maxCoordinate := by
  obtain ⟨hright, hbottom⟩ := inner_fits hg hlayout hfits
  unfold Rect.right at hright
  unfold Rect.bottom at hbottom
  have hheight := hg.height_le
  rw [if_pos (hg.hasControls_of_permits hwired)] at hheight
  have hwidth := (width_lt hg hlayout hfits).2
  unfold Rect.Fits
  -- the halves lie in the grid, which ends before the last coordinate
  cases control with
  | clear =>
    simp only [Grid.controlCell, Rect.right, Rect.bottom]
    omega
  | backspace =>
    simp only [Grid.controlCell, Grid.middle, Rect.right, Rect.bottom]
    omega

theorem drawControl_eq {screen : Rect} {pressed : Option Button} (control : Control) :
    drawControl screen (g.controlCell control) wired pressed control =
      .ok (Terminal.drawControl screen g wired pressed control) := by
  unfold drawControl Terminal.drawControl
  by_cases hwired : wired.permits (.ofControl control) = true
  · obtain ⟨hcell, hwidth⟩ := controlCell_fits hg hlayout hfits hwired
    rw [if_pos hwired, if_pos hwired, drawButton_eq hcell hwidth]
  · rw [if_neg hwired, if_neg hwired]
    rfl

end

/-- A list is mapped without a fault if each of its entries is, at its own index. -/
theorem mapM_zipIdx_of_ok {α β : Type} {f : Nat → α → Except Fault β} {g : Nat → α → β} {l : List α}
    (start : Nat) (h : ∀ i a, l[i]? = some a → f (start + i) a = .ok (g (start + i) a)) :
    (l.zipIdx start).mapM (fun p => f p.2 p.1) = .ok (l.mapIdx fun i a => g (start + i) a) := by
  induction l generalizing start with
  | nil => rfl
  | cons a rest ih =>
    have hhead : f start a = .ok (g start a) := h 0 a rfl
    -- the indices of the rest start one further
    have hrest : ∀ i b, rest[i]? = some b → f (start + 1 + i) b = .ok (g (start + 1 + i) b) := by
      intro i b hb
      have hnext := h (i + 1) b (by rwa [List.getElem?_cons_succ])
      rwa [Nat.add_comm i 1, ← Nat.add_assoc] at hnext
    rw [List.zipIdx_cons, List.mapM_cons]
    dsimp only
    rw [hhead, ok_bind, ih (start + 1) hrest, ok_bind, List.mapIdx_cons, Nat.add_zero]
    simp only [Nat.add_right_comm start, Nat.add_assoc]
    rfl

/-- Drawing a keypad in words never fails, and draws what is drawn without them. -/
theorem drawKeypad_eq {layout : Layout} (hlayout : layout.IsGrid) {area : Rect}
    (hfits : area.Fits) (screen : Rect) (wired : Controls) (pressed : Option Button) :
    drawKeypad screen layout wired pressed area =
      .ok (Terminal.drawKeypad screen layout wired pressed area) := by
  unfold drawKeypad Terminal.drawKeypad
  rw [grid?_eq hlayout hfits, ok_bind]
  cases hg : Grid.of? layout wired area with
  | none =>
    dsimp only
    rw [List.append_nil]
    rfl
  | some g =>
    have hdiv := Grid.divides_of_of? hg
    -- every key is drawn in a cell of the grid, and none of them faults
    have hkeys : layout.keys.zipIdx.mapM (fun key => drawKey screen g pressed key.2 key.1) =
        .ok (layout.keys.mapIdx (Terminal.drawKey screen g pressed)) := by
      have hall := mapM_zipIdx_of_ok (f := drawKey screen g pressed)
        (g := Terminal.drawKey screen g pressed) 0 fun i key (hkey : layout.keys[i]? = some key) => by
          rw [Nat.zero_add]
          exact drawKey_eq hdiv hlayout hfits hkey
      simpa only [Nat.zero_add] using hall
    dsimp only
    rw [hkeys, ok_bind, controlCells_eq hdiv hlayout hfits, ok_bind]
    dsimp only
    rw [drawControl_eq hdiv hlayout hfits, ok_bind, drawControl_eq hdiv hlayout hfits, ok_bind]
    rfl

end Word

end AmountPad.Terminal
