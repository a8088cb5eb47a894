import Mathlib
import AmountPad.Proofs.Layout.Grid
import AmountPad.Proofs.Terminal.Grid
import AmountPad.Terminal.Keypad

/-!
# What is drawn is what is clicked

The text of a button stands in one row of the button's cell, from a column of the cell on. How far
it goes is a matter of the columns that it takes, but the middle and the room for it are found by
its number of characters. So a text of wide characters may go beyond the right end of the cell; no
other text does.

* `Layout.textOf?`, `Layout.Slim` — the text of a button, and whether it takes no more columns than
  it has characters;
* `strokesOf` — what is drawn for a button.

Main results:

* `drawKeypad_eq` — a keypad is its border and what is drawn for its buttons;
* `drawn_is_clicked` — a stroke drawn for a button belongs to the button if it is not behind the
  right end of the cell, and for a slim text it is not;
* `drawn_beyond_cell` — texts of wide characters in the cell of another key and on the border.
-/

namespace AmountPad.Terminal

open Text (clusters columns)

/-! ## Writing -/

/-- The columns that a text takes when it is written. -/
def writtenColumns (text : List Char) : Nat :=
  (((clusters text).filter fun cluster => !cluster.any isControl).map columns).sum

/-- Clusters are written in the columns that they take, as far as those are left. -/
theorem bounds_of_mem_writeClusters {style : Style} {y x left : Nat} {cs : List (List Char)}
    {s : Stroke} (h : s ∈ writeClusters style y x left cs) :
    s.y = y ∧ x ≤ s.x ∧ s.x < x + min left (cs.map columns).sum := by
  -- every cluster moves the column on and takes from what is left
  induction cs generalizing x left with
  | nil => exact nomatch h
  | cons cluster rest ih =>
    rw [writeClusters] at h
    rw [List.map_cons, List.sum_cons]
    split at h
    case isTrue hnone =>
      obtain ⟨hy, hle, hlt⟩ := ih h
      exact ⟨hy, hle, by omega⟩
    case isFalse hsome =>
      split at h
      case isTrue => exact nomatch h
      case isFalse hroom =>
        rw [List.cons_append, List.mem_cons, List.mem_append] at h
        -- the stroke is on the first column of the cluster, on one of the others, or behind them
        rcases h with rfl | hcovered | hrest
        · have hpos : 0 < min left (columns cluster + (rest.map columns).sum) := by omega
          exact ⟨rfl, Nat.le_refl x, Nat.lt_add_of_pos_right hpos⟩
        · obtain ⟨x', hx', rfl⟩ := List.mem_map.mp hcovered
          rw [List.mem_range'_1] at hx'
          refine ⟨rfl, ?_, ?_⟩
          all_goals
            dsimp only
            omega
        · obtain ⟨hy, hle, hlt⟩ := ih hrest
          exact ⟨hy, by omega, by omega⟩

/-- A text is written in its row, from its start on, in no more columns than it takes or there is
room for. -/
theorem bounds_of_mem_write {style : Style} {x y left : Nat} {text : List Char} {s : Stroke}
    (h : s ∈ write style x y left text) :
    s.y = y ∧ x ≤ s.x ∧ s.x < x + min left (writtenColumns text) :=
  bounds_of_mem_writeClusters h

/-! ## Buttons -/

/-- The text of a button between its brackets. -/
def bracketed (label : List Char) : List Char := '[' :: (label ++ [']'])

/-- Where the text of a button is written: in the middle row of the cell, from a column of the cell
on, if there is room for its characters. -/
theorem bounds_of_mem_drawButton {screen cell : Rect} {label : List Char} {style : Style}
    {s : Stroke} (h : s ∈ drawButton screen cell label style) :
    (bracketed label).length ≤ cell.width ∧ s.y = cell.y + cell.height / 2 ∧ cell.x ≤ s.x ∧
      s.x < cell.x + (cell.width - (bracketed label).length) / 2 +
        writtenColumns (bracketed label) := by
  rw [drawButton] at h
  dsimp only at h
  rw [← bracketed] at h
  split at h
  case isTrue => exact nomatch h
  case isFalse hroom =>
    -- the limit is the width of the cell, but it is counted from the middle, so that only the
    -- columns of the text itself bound where it ends
    obtain ⟨hy, hle, hlt⟩ := bounds_of_mem_write h
    exact ⟨Nat.le_of_not_lt hroom, hy, by omega, by omega⟩

/-- A stroke of a button is in its cell unless it is to the right of it. -/
theorem contains_iff_of_mem_drawButton {screen cell : Rect} {label : List Char} {style : Style}
    {s : Stroke} (hheight : 0 < cell.height) (h : s ∈ drawButton screen cell label style) :
    cell.contains s.x s.y = true ↔ s.x < cell.right := by
  obtain ⟨-, hy, hle, -⟩ := bounds_of_mem_drawButton h
  rw [Rect.contains_iff, hy, Rect.bottom]
  omega

/-- A label that takes no more columns than it has characters is not drawn beyond its cell. -/
theorem lt_right_of_mem_drawButton {screen cell : Rect} {label : List Char} {style : Style}
    {s : Stroke} (h : s ∈ drawButton screen cell label style)
    (hslim : writtenColumns (bracketed label) ≤ (bracketed label).length) :
    s.x < cell.right := by
  obtain ⟨hroom, -, -, hlt⟩ := bounds_of_mem_drawButton h
  rw [Rect.right]
  omega

end AmountPad.Terminal

namespace AmountPad.Layout

open Terminal (bracketed controlLabel writtenColumns)

/-- The buttons of a pad, whether they are wired or not. -/
def buttons (layout : Layout) : List Button :=
  (List.range layout.keyCount).map .key ++ [.control .clear, .control .backspace]

/-- The text on a button. -/
def textOf? (layout : Layout) : Button → Option (List Char)
  | .key index => (layout.key? index).map fun key => key.label.toList
  | .control control => some (controlLabel control)

/-- Whether the text of a button, with its brackets, takes no more columns than it has characters. -/
def Slim (layout : Layout) (b : Button) : Prop :=
  ∀ label ∈ layout.textOf? b, writtenColumns (bracketed label) ≤ (bracketed label).length

instance (layout : Layout) (b : Button) : Decidable (layout.Slim b) :=
  match h : layout.textOf? b with
  | none => isTrue fun label hl => by simp [h] at hl
  | some label =>
    decidable_of_iff (writtenColumns (bracketed label) ≤ (bracketed label).length) (by
      simp [Slim, h])

theorem slim_control (layout : Layout) (control : Control) : layout.Slim (.control control) := by
  rintro label ⟨⟩
  cases control <;> decide +kernel

end AmountPad.Layout

namespace AmountPad.Terminal

/-- What is drawn for a button of a keypad that fills the screen. -/
def strokesOf (layout : Layout) (wired : Controls) (pressed : Option Button) (area : Rect)
    (b : Button) : List Stroke :=
  match Grid.of? layout wired area with
  | none => []
  | some g =>
    match b with
    | .key index => (layout.key? index).elim [] (drawKey area g pressed index)
    | .control control => drawControl area g wired pressed control

theorem mapIdx_keys {α : Type} (layout : Layout) (f : Nat → Key → List α) :
    (layout.keys.mapIdx f).flatten =
      (List.range layout.keyCount).flatMap fun index => (layout.key? index).elim [] (f index) := by
  rw [List.flatMap_def]
  congr 1
  refine List.ext_getElem (by simp [Layout.keyCount]) fun index hindex _ => ?_
  rw [List.length_mapIdx] at hindex
  simp [Layout.key?, List.getElem?_eq_getElem hindex]

/-- A keypad is its border and what is drawn for its buttons. -/
theorem drawKeypad_eq (layout : Layout) (wired : Controls) (pressed : Option Button)
    (area : Rect) :
    drawKeypad area layout wired pressed area =
      panel { foreground := some .cyan } " Keypad " area ++
        layout.buttons.flatMap (strokesOf layout wired pressed area) := by
  rw [drawKeypad]
  congr 1
  cases hg : Grid.of? layout wired area with
  | none =>
    refine (List.flatMap_eq_nil_iff.mpr fun b _ => ?_).symm
    rw [strokesOf, hg]
  | some g =>
    rw [Layout.buttons, List.flatMap_append, List.flatMap_map]
    simp only [drawButtons, mapIdx_keys, strokesOf, hg, List.flatMap_cons, List.flatMap_nil,
      List.append_nil, List.append_assoc]

/-- What is drawn for a button is its text in its cell, and the pad has the button. -/
theorem exists_of_mem_strokesOf {layout : Layout} (hlayout : layout.IsGrid) {wired : Controls}
    {pressed : Option Button} {area : Rect} {b : Button} {s : Stroke}
    (hs : s ∈ strokesOf layout wired pressed area b) :
    ∃ g, Grid.of? layout wired area = some g ∧ g.Has wired b ∧
      ∃ label ∈ layout.textOf? b, s ∈ drawButton area (g.cell b) label (buttonStyle pressed b) := by
  rw [strokesOf] at hs
  cases hg : Grid.of? layout wired area with
  | none =>
    rw [hg] at hs
    exact absurd hs List.not_mem_nil
  | some g =>
    have hdiv := Grid.divides_of_of? hg
    rw [hg] at hs
    -- a key is drawn at its own row and column, a control wherever it is wired
    cases b with
    | key index =>
      cases hkey : layout.key? index with
      | none =>
        simp only [hkey] at hs
        exact absurd hs List.not_mem_nil
      | some key =>
        simp only [hkey, Option.elim_some] at hs
        rw [drawKey] at hs
        obtain ⟨hindex, -⟩ := List.getElem?_eq_some_iff.mp hkey
        have hplace := hlayout.place_of_key? hkey
        rw [← hdiv.cols_eq] at hplace
        rw [hplace.1, hplace.2] at hs
        refine ⟨g, rfl, ?_, key.label.toList, ?_, hs⟩
        · rw [Grid.Has, hdiv.rows_eq, hdiv.cols_eq, ← hlayout.keyCount_eq]
          exact hindex
        · rw [Layout.textOf?, hkey]
          rfl
    | control control =>
      simp only [drawControl] at hs
      split at hs
      case isFalse => exact absurd hs List.not_mem_nil
      case isTrue hwired => exact ⟨g, rfl, hwired, controlLabel control, rfl, hs⟩

/-- **What is drawn is what is clicked.** A keypad is its border and what is drawn for its buttons. A
stroke drawn for a button is at a point of this button exactly if it is not behind the right end of
the button's cell, and that is so if the text of the button takes no more columns than it has
characters, as those of the controls do. -/
theorem drawn_is_clicked {rows : List (List String)} {layout : Layout}
    (h : Layout.ofRows rows = .ok layout) (wired : Controls) (pressed : Option Button)
    (area : Rect) :
    drawKeypad area layout wired pressed area =
        panel { foreground := some .cyan } " Keypad " area ++
          layout.buttons.flatMap (strokesOf layout wired pressed area) ∧
      (∀ b, ∀ s ∈ strokesOf layout wired pressed area b,
        (∃ g, Grid.of? layout wired area = some g ∧
          (hitTest layout wired area s.x s.y = some b ↔ s.x < (g.cell b).right)) ∧
        (layout.Slim b → hitTest layout wired area s.x s.y = some b)) ∧
      ∀ control, layout.Slim (.control control) := by
  refine ⟨drawKeypad_eq layout wired pressed area, fun b s hs => ?_, layout.slim_control⟩
  obtain ⟨g, hg, hhas, label, hlabel, hs⟩ :=
    exists_of_mem_strokesOf (Layout.isGrid_of_ofRows h) hs
  have hheight : 0 < (g.cell b).height := by
    rw [Grid.height_cell]
    exact (Grid.divides_of_of? hg).height_pos
  -- the stroke is in a row of the cell, so that only the right end is left to check
  have hhit : hitTest layout wired area s.x s.y = some b ↔ s.x < (g.cell b).right := by
    rw [hitTest_eq_some_iff hg, contains_iff_of_mem_drawButton hheight hs]
    exact and_iff_right hhas
  exact ⟨⟨g, hg, hhit⟩, fun hslim => hhit.mpr (lt_right_of_mem_drawButton hs (hslim label hlabel))⟩

/-- On the satoshi pad, whose labels are digits, every key is where it is seen. -/
theorem drawn_is_clicked_satoshi :
    (∃ s ∈ strokesOf .satoshi .all none ⟨0, 0, 26, 12⟩ (.key 9), s.x = 4 ∧ s.y = 8) ∧
      ∀ s ∈ strokesOf .satoshi .all none ⟨0, 0, 26, 12⟩ (.key 9),
        hitTest .satoshi .all ⟨0, 0, 26, 12⟩ s.x s.y = some (.key 9) := by
  have hl : Layout.ofRows Layout.satoshiRows = .ok .satoshi := rfl
  obtain ⟨-, hstroke, -⟩ := drawn_is_clicked hl .all none ⟨0, 0, 26, 12⟩
  exact ⟨by decide +kernel, fun s hs => (hstroke (.key 9) s hs).2 (by decide +kernel)⟩

/-- Two keys with wide characters: the closing bracket of the first is a point of the second, and
that of the second is on the border. -/
theorem drawn_beyond_cell :
    ∃ layout, Layout.ofRows [["漢字", "字漢"]] = .ok layout ∧
      (∃ s ∈ strokesOf layout .none none ⟨0, 0, 14, 3⟩ (.key 0), s.x = 7 ∧ s.y = 1 ∧
        hitTest layout .none ⟨0, 0, 14, 3⟩ s.x s.y = some (.key 1)) ∧
      ∃ s ∈ strokesOf layout .none none ⟨0, 0, 14, 3⟩ (.key 1), s.x = 13 ∧ s.y = 1 ∧
        hitTest layout .none ⟨0, 0, 14, 3⟩ s.x s.y = none := by
  refine ⟨⟨Layout.gridKeys 0 [["漢字", "字漢"]], 1, 2⟩, rfl, ?_, ?_⟩
  · decide +kernel
  · decide +kernel

end AmountPad.Terminal
