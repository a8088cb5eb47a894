import Mathlib
import AmountPad.Proofs.Terminal.Picture
import AmountPad.Proofs.Terminal.WordKeypad

/-!
# Coordinates stay in range

Sums, differences, products and quotients of coordinates are faults where they leave the range of a
word. None of them does in a rectangle that ends before the last coordinate, however many rows and
columns the layout has: neither for the grid, nor for the cells of the keys and of the controls, nor
where a point is looked up, nor where the text of a button is written. The text starts inside the
border, so that nothing is drawn behind the end of a screen that the rectangle is a part of.

* `StartsInside` — the text of a button in a cell starts inside the border, or there is no room.

Main results:

* `Word.startsInside_of_cell` — the texts of all buttons of a pad are of this kind;
* `contains_of_mem_drawKeypad_within` — a keypad is drawn on the screen only;
* `Word.coordinates_stay_in_range` — all of it for every layout that was read.
-/

namespace AmountPad.Terminal

/-! ## Where texts start -/

/-- Whether the text of a button in a cell starts inside the border of a rectangle, if it has room
in the cell. To find this out is no fault, and neither is it to draw the button, which is done by
writing the text from its start on. -/
def StartsInside (area cell : Rect) (label : List Char) : Prop :=
  ∃ start?, Word.start? cell label = .ok start? ∧
    (∀ x y, start? = some (x, y) →
      area.x < x ∧ x + 1 < area.right ∧ area.y < y ∧ y + 1 < area.bottom) ∧
    ∀ screen style, Word.drawButton screen cell label style = .ok (start?.elim [] fun (x, y) =>
      write style x y (min (screen.right - x) cell.width) (bracketed label))

/-- A point inside the border is inside the rectangle, and not on its edges. -/
theorem inside_of_contains_inner {area : Rect} {x y : Nat}
    (h : area.inner.contains x y = true) :
    area.x < x ∧ x + 1 < area.right ∧ area.y < y ∧ y + 1 < area.bottom := by
  rw [Rect.contains_iff] at h
  unfold Rect.inner Rect.right Rect.bottom at h
  unfold Rect.right Rect.bottom
  dsimp only at h
  omega

/-- A text with room in a cell starts at a point of the cell: it has two brackets, so that the cell
has columns. -/
theorem contains_start {cell : Rect} {label : List Char}
    (hroom : (bracketed label).length ≤ cell.width) (hheight : 0 < cell.height) :
    cell.contains (cell.x + (cell.width - (bracketed label).length) / 2)
      (cell.y + cell.height / 2) = true := by
  have hpos : 0 < (bracketed label).length := Nat.succ_pos _
  rw [Rect.contains_iff]
  unfold Rect.right Rect.bottom
  omega

section

variable {layout : Layout} {wired : Controls} {area : Rect} {g : Grid}
  (hg : g.Divides layout wired area)
include hg

/-- The cell of a key is the one at its row and column. -/
theorem cell_of_key? (hlayout : layout.IsGrid) {i : Nat} {key : Key}
    (hkey : layout.key? i = some key) :
    g.cell (.key i) = g.keyCell key.row key.col ∧ g.Has wired (.key i) := by
  obtain ⟨hrow, hcol⟩ := hlayout.place_of_key? hkey
  obtain ⟨hi, -⟩ := List.getElem?_eq_some_iff.mp hkey
  constructor
  · show g.keyCell (i / g.cols) (i % g.cols) = _
    rw [hg.cols_eq, hrow, hcol]
  · show i < g.rows * g.cols
    rw [hg.rows_eq, hg.cols_eq, ← hlayout.keyCount_eq]
    exact hi

/-- The texts of all buttons of a pad start inside the border. -/
theorem Word.startsInside_of_cell {b : Button} (hb : g.Has wired b) (hcell : (g.cell b).Fits)
    (hwidth : (g.cell b).width < maxCoordinate) (label : List Char) :
    StartsInside area (g.cell b) label := by
  have hstart := Word.start?_eq hcell hwidth label
  refine ⟨_, hstart, ?inside, ?drawn⟩
  case inside =>
    intro x y hxy
    by_cases hroom : (g.cell b).width < (bracketed label).length
    · rw [if_pos hroom] at hxy
      cases hxy
    · rw [if_neg hroom] at hxy
      cases hxy
      have hheight : 0 < (g.cell b).height := by
        rw [Grid.height_cell]
        exact hg.height_pos
      -- a cell of a button lies inside the border with all its points
      have hin := hg.contains_inner hb (contains_start (Nat.le_of_not_lt hroom) hheight)
      rw [hg.inner_eq] at hin
      exact inside_of_contains_inner hin
  case drawn =>
    intro screen style
    rw [Word.drawButton_eq_bind, hstart, Word.ok_bind]
    by_cases hroom : (g.cell b).width < (bracketed label).length
    · rw [if_pos hroom]
      rfl
    · rw [if_neg hroom]
      rfl

end

/-! ## What is drawn is on the screen -/

/-- A text ends where the screen does or before, whatever the columns of its characters are. -/
theorem lt_right_of_mem_drawButton_screen {screen cell : Rect} {label : List Char} {style : Style}
    {s : Stroke} (h : s ∈ drawButton screen cell label style) : s.x < screen.right := by
  unfold drawButton at h
  dsimp only at h
  split at h
  case isTrue => exact absurd h List.not_mem_nil
  case isFalse =>
    -- so many columns are left up to the end of the screen, and no more are written
    obtain ⟨-, hle, hlt⟩ := bounds_of_mem_write h
    omega

section

variable {layout : Layout} {wired : Controls} {area screen : Rect} {g : Grid}
  {pressed : Option Button}

/-- What is drawn for the buttons is the text of one of them in its cell. -/
theorem exists_of_mem_drawButtons (hlayout : layout.IsGrid) (hg : g.Divides layout wired area)
    {s : Stroke} (hs : s ∈ drawButtons screen g layout wired pressed) :
    ∃ b label, g.Has wired b ∧
      s ∈ drawButton screen (g.cell b) label (buttonStyle pressed b) := by
  -- a control that is not wired has no strokes
  have hcontrol : ∀ control, s ∈ drawControl screen g wired pressed control →
      ∃ b label, g.Has wired b ∧
        s ∈ drawButton screen (g.cell b) label (buttonStyle pressed b) := by
    intro control hs
    unfold drawControl at hs
    by_cases hwired : wired.permits (.ofControl control) = true
    · rw [if_pos hwired] at hs
      exact ⟨.control control, controlLabel control, hwired, hs⟩
    · rw [if_neg hwired] at hs
      exact absurd hs List.not_mem_nil
  unfold drawButtons at hs
  rw [List.mem_append, List.mem_append] at hs
  rcases hs with (hkeys | hclear) | hbackspace
  · -- the strokes of a key are those of its own cell
    obtain ⟨strokes, hstrokes, hs⟩ := List.mem_flatten.mp hkeys
    obtain ⟨i, hi, rfl⟩ := List.mem_mapIdx.mp hstrokes
    obtain ⟨hcell, hhas⟩ := cell_of_key? hg hlayout (List.getElem?_eq_getElem hi)
    refine ⟨.key i, (layout.keys[i]).label.toList, hhas, ?_⟩
    rw [hcell]
    exact hs
  · exact hcontrol .clear hclear
  · exact hcontrol .backspace hbackspace

/-- A keypad in a part of a screen is drawn on the screen only, whatever its labels are. -/
theorem contains_of_mem_drawKeypad_within (hlayout : layout.IsGrid) (hwithin : area.Within screen)
    {s : Stroke} (hs : s ∈ drawKeypad screen layout wired pressed area) :
    screen.contains s.x s.y = true := by
  obtain ⟨hleft, hright, htop, hbottom⟩ := hwithin
  unfold drawKeypad at hs
  rcases List.mem_append.mp hs with hframe | hbuttons
  · have hin := Rect.contains_iff.mp (contains_of_mem_panel hframe)
    rw [Rect.contains_iff]
    omega
  · cases hgrid : Grid.of? layout wired area with
    | none =>
      rw [hgrid] at hbuttons
      exact absurd hbuttons List.not_mem_nil
    | some g =>
      rw [hgrid] at hbuttons
      have hg := Grid.divides_of_of? hgrid
      obtain ⟨b, label, hb, hs⟩ := exists_of_mem_drawButtons hlayout hg hbuttons
      obtain ⟨hroom, hy, hx, -⟩ := bounds_of_mem_drawButton hs
      have hend := lt_right_of_mem_drawButton_screen hs
      have hheight : 0 < (g.cell b).height := by
        rw [Grid.height_cell]
        exact hg.height_pos
      -- the stroke is in the row in which the text starts, and not in front of the cell
      have hstart := hg.contains_inner hb (contains_start hroom hheight)
      rw [hg.inner_eq] at hstart
      have hinside := inside_of_contains_inner hstart
      have hcell : area.x < (g.cell b).x := by
        have hcorner : (g.cell b).contains (g.cell b).x (g.cell b).y = true := by
          have hpos : 0 < (bracketed label).length := Nat.succ_pos _
          rw [Rect.contains_iff]
          unfold Rect.right Rect.bottom
          omega
        have hfirst := hg.contains_inner hb hcorner
        rw [hg.inner_eq] at hfirst
        exact (inside_of_contains_inner hfirst).1
      rw [Rect.contains_iff, hy]
      omega

end

/-! ## All coordinates -/

namespace Word

/-- **Coordinates stay in range.** In a rectangle that ends before the last coordinate, no sum,
difference, product or quotient of coordinates is a fault, however large the layout is: the grid is
found, and with it the cell of every key and those of the controls, wired or not; so is the button
at any point; and the keypad is drawn on any screen. The texts of the keys and of the controls that
are wired start inside the border, and on a screen that the rectangle is a part of nothing is drawn
outside the screen. -/
theorem coordinates_stay_in_range {rows : List (List String)} {layout : Layout}
    (h : Layout.ofRows rows = .ok layout) (wired : Controls) {area : Rect} (hfits : area.Fits) :
    (∃ g?, grid? layout wired area = .ok g? ∧ ∀ g, g? = some g →
      (∀ key ∈ layout.keys, ∃ cell, keyCell g key.row key.col = .ok cell ∧
        StartsInside area cell key.label.toList) ∧
      ∃ clear backspace, controlCells g = .ok (clear, backspace) ∧
        (wired.clear = true → StartsInside area clear (controlLabel .clear)) ∧
        (wired.backspace = true → StartsInside area backspace (controlLabel .backspace))) ∧
    (∀ x y, ∃ b?, hitTest layout wired area x y = .ok b?) ∧
    ∀ screen pressed, ∃ strokes, drawKeypad screen layout wired pressed area = .ok strokes ∧
      (area.Within screen → ∀ s ∈ strokes, screen.contains s.x s.y = true) := by
  have hlayout := Layout.isGrid_of_ofRows h
  refine ⟨⟨_, grid?_eq hlayout hfits, fun g hsome => ?cells⟩,
    fun x y => ⟨_, hitTest_eq hlayout hfits x y⟩, fun screen pressed => ?drawn⟩
  case cells =>
    have hg := Grid.divides_of_of? hsome
    have hkeyWidth := (width_lt hg hlayout hfits).1
    -- a wired control has a cell inside the area, in which its label starts
    have hcontrols (control : Control) (hwired : wired.permits (.ofControl control) = true) :
        StartsInside area (g.controlCell control) (controlLabel control) := by
      obtain ⟨hend, hwidth⟩ := controlCell_fits hg hlayout hfits hwired
      have hhas : g.Has wired (.control control) := hwired
      exact startsInside_of_cell hg hhas hend hwidth _
    refine ⟨?keys, _, _, controlCells_eq hg hlayout hfits, hcontrols .clear, hcontrols .backspace⟩
    case keys =>
      intro key hkey
      obtain ⟨hrow, hcol, hindex, -⟩ := hlayout.place_of_mem hkey
      obtain ⟨hcell, hend⟩ := keyCell_eq hg hlayout hfits hrow hcol
      obtain ⟨hplace, hhas⟩ := cell_of_key? hg hlayout hindex
      rw [← hplace] at hcell hend
      exact ⟨_, hcell, startsInside_of_cell hg hhas hend hkeyWidth _⟩
  case drawn =>
    refine ⟨_, drawKeypad_eq hlayout hfits screen wired pressed, ?_⟩
    intro hwithin s hs
    exact contains_of_mem_drawKeypad_within hlayout hwithin hs

/-- A pad in the last corner of the largest terminal, on a screen that is the whole terminal. -/
theorem coordinates_stay_in_range_corner :
    (⟨65509, 65523, 26, 12⟩ : Rect).Fits ∧
      (∃ strokes, drawKeypad ⟨0, 0, 65535, 65535⟩ .satoshi .none none ⟨65509, 65523, 26, 12⟩ =
        .ok strokes ∧ ∀ s ∈ strokes, s.x < 65535 ∧ s.y < 65535) ∧
      StartsInside ⟨65509, 65523, 26, 12⟩ ⟨65526, 65530, 8, 2⟩ ['0', '0', '0'] := by
  have hl : Layout.ofRows Layout.satoshiRows = .ok .satoshi := rfl
  have hfits : (⟨65509, 65523, 26, 12⟩ : Rect).Fits := by
    unfold Rect.Fits
    decide
  obtain ⟨⟨g?, hgrid, hcells⟩, -, hdrawn⟩ := coordinates_stay_in_range hl .none hfits
  refine ⟨hfits, ?_, ?_⟩
  · obtain ⟨strokes, hdraw, hscreen⟩ := hdrawn ⟨0, 0, 65535, 65535⟩ none
    refine ⟨strokes, hdraw, fun s hs => ?_⟩
    have hin := Rect.contains_iff.mp (hscreen (by unfold Rect.Within; decide) s hs)
    unfold Rect.right Rect.bottom at hin
    dsimp only at hin
    omega
  · obtain rfl : g? = some ⟨⟨65510, 65524, 24, 10⟩, 8, 2, 4, 3, false⟩ :=
      Except.ok.inj (hgrid.symm.trans rfl)
    obtain ⟨cell, hcell, hstart⟩ := (hcells _ rfl).1 (.ofLabel "000" 3 2) (by decide)
    obtain rfl : cell = ⟨65526, 65530, 8, 2⟩ := Except.ok.inj (hcell.symm.trans rfl)
    exact hstart

end Word

end AmountPad.Terminal
