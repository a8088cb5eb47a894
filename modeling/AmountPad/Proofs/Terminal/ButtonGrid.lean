import Mathlib
import AmountPad.Proofs.Layout.Grid
import AmountPad.Proofs.Terminal.Grid
import AmountPad.Terminal.Word

/-!
# The hit test is the grid of buttons

Which button a point belongs to is found by dividing its coordinates, and these are words that must
not leave their range on the way. A button of the grid, on the other hand, is an interval of columns
and one of lines, told by the sizes of the rectangle and of the layout. The two agree everywhere: the
divisions may leave columns and lines over at the right and at the bottom, and a layout may have more
rows or columns than there are coordinates.

* `Covers` — the points of a button.

Main results:

* `Word.hitTest_eq` — the hit test in words never fails, and finds what the hit test finds;
* `hitTest_eq_some_iff_covers` — a point belongs to the button that covers it;
* `hitTest_eq_of_same_place` — the hit test goes by the place of a point in the rectangle;
* `hitTest_is_button_grid` — all of it for every layout that was read.
-/

namespace AmountPad.Terminal

/-! ## Words stay in their range -/

namespace Word

theorem ok_bind {α β : Type} (a : α) (f : α → Except Fault β) : (Except.ok a >>= f) = f a := rfl

/-- A sum that is a coordinate is computed without a fault. -/
theorem add_of_le {a b : Nat} (h : a + b ≤ maxCoordinate) : add a b = .ok (a + b) := if_pos h

theorem sub_of_le {a b : Nat} (h : b ≤ a) : sub a b = .ok (a - b) := if_pos h

theorem mul_of_le {a b : Nat} (h : a * b ≤ maxCoordinate) : mul a b = .ok (a * b) := if_pos h

theorem div_of_pos {a b : Nat} (h : 0 < b) : div a b = .ok (a / b) := if_neg (Nat.ne_of_gt h)

theorem saturate_of_le {n : Nat} (h : n ≤ maxCoordinate) : saturate n = n := Nat.min_eq_left h

/-- A word divided by a number of parts that is cut off is the word divided by the number itself:
where the number is cut off, neither leaves anything for a part. -/
theorem div_saturate {a n : Nat} (ha : a < maxCoordinate) (hn : 0 < n) :
    div a (saturate n) = .ok (a / n) := by
  have hpos : 0 < saturate n := by
    unfold saturate maxCoordinate
    omega
  rw [div_of_pos hpos]
  rcases Nat.le_total n maxCoordinate with hle | hge
  · rw [saturate_of_le hle]
  · have hcut : saturate n = maxCoordinate := Nat.min_eq_right hge
    rw [hcut, Nat.div_eq_of_lt ha, Nat.div_eq_of_lt (Nat.lt_of_lt_of_le ha hge)]

variable {layout : Layout} {wired : Controls} {area : Rect}

/-- A rectangle with room inside its border does not reach the last coordinate with its corner. -/
theorem inner_eq (hfits : area.Fits) (hwidth : 0 < area.inner.width)
    (hheight : 0 < area.inner.height) : inner area = area.inner := by
  obtain ⟨hright, hbottom⟩ := hfits
  unfold Rect.right at hright
  unfold Rect.bottom at hbottom
  unfold Rect.inner at hwidth hheight
  dsimp only at hwidth hheight
  rw [inner, saturate_of_le (by omega), saturate_of_le (by omega)]
  rfl

/-- The grid in words is the grid. -/
theorem grid?_eq (hlayout : layout.IsGrid) (hfits : area.Fits) :
    grid? layout wired area = .ok (Grid.of? layout wired area) := by
  have hrows : 0 < Grid.totalRows layout wired :=
    Nat.lt_of_lt_of_le hlayout.rows_pos (Nat.le_add_right _ _)
  obtain ⟨hright, hbottom⟩ := hfits
  -- the size of a cell is a quotient by a number of keys that is not zero
  have hwidth : div (inner area).width (saturate (max layout.cols 1)) =
      .ok (area.inner.width / layout.cols) := by
    rw [Nat.max_eq_left hlayout.cols_pos]
    refine div_saturate ?_ hlayout.cols_pos
    show area.width - 2 < maxCoordinate
    unfold Rect.right maxCoordinate at *
    omega
  have hheight : div (inner area).height (saturate (max (Grid.totalRows layout wired) 1)) =
      .ok (area.inner.height / Grid.totalRows layout wired) := by
    rw [Nat.max_eq_left hrows]
    refine div_saturate ?_ hrows
    show area.height - 2 < maxCoordinate
    unfold Rect.bottom maxCoordinate at *
    omega
  rw [grid?, hwidth, hheight, ok_bind, ok_bind, Grid.of?]
  by_cases hroom : area.inner.width / layout.cols = 0 ∨
      area.inner.height / Grid.totalRows layout wired = 0
  · rw [if_pos hroom, if_pos hroom]
    rfl
  · rw [if_neg hroom, if_neg hroom]
    -- an area with room for a cell has an inside, and its corner is a coordinate
    rw [not_or, Nat.div_eq_zero_iff, Nat.div_eq_zero_iff] at hroom
    rw [inner_eq ⟨hright, hbottom⟩ (by omega) (by omega)]
    rfl

section

variable {g : Grid} (hg : g.Divides layout wired area) (hlayout : layout.IsGrid)
  (hfits : area.Fits)
include hg hlayout hfits

/-- The inside of the border ends before the last coordinate. -/
theorem inner_fits : g.inner.Fits := by
  obtain ⟨hright, hbottom⟩ := hfits
  -- there is a cell inside the border, so that the border is all around it
  have hwidth : g.width ≤ area.width - 2 := by
    have hle := hg.width_le
    rw [hg.cols_eq, hg.inner_eq] at hle
    exact Nat.le_trans (Nat.le_mul_of_pos_left _ hlayout.cols_pos) hle
  have hheight : g.height ≤ area.height - 2 := by
    have hle := Nat.le_trans (Nat.le_add_right _ _) hg.height_le
    rw [hg.rows_eq, hg.inner_eq] at hle
    exact Nat.le_trans (Nat.le_mul_of_pos_left _ hlayout.rows_pos) hle
  have hwidth_pos := hg.width_pos
  have hheight_pos := hg.height_pos
  unfold Rect.right at hright
  unfold Rect.bottom at hbottom
  rw [hg.inner_eq]
  unfold Rect.Fits Rect.right Rect.bottom Rect.inner
  dsimp only
  omega

/-- The cells of the controls in words are the cells of the controls. -/
theorem controlCells_eq :
    controlCells g = .ok (g.controlCell .clear, g.controlCell .backspace) := by
  obtain ⟨hright, hbottom⟩ := inner_fits hg hlayout hfits
  unfold Rect.right at hright
  unfold Rect.bottom at hbottom
  have hheight := Nat.le_trans (Nat.le_add_right _ _) hg.height_le
  -- there are no more rows than lines inside the border
  have hrows : g.rows ≤ maxCoordinate := by
    have hle : g.rows ≤ g.rows * g.height := Nat.le_mul_of_pos_right _ hg.height_pos
    omega
  rw [controlCells, saturate_of_le hrows, mul_of_le (by omega), ok_bind, add_of_le (by omega),
    ok_bind, div_of_pos Nat.two_pos, ok_bind, add_of_le (by omega), ok_bind, sub_of_le (by omega),
    ok_bind]
  rfl

/-- Inside the grid, the button under a point is found without a fault. -/
theorem buttonAt?_eq {x y : Nat} (hin : g.inner.contains x y = true) :
    buttonAt? g wired x y = .ok (g.buttonAt? wired x y) := by
  obtain ⟨hleft, -, htop, -⟩ := Rect.contains_iff.mp hin
  rw [buttonAt?, sub_of_le htop, ok_bind, div_of_pos hg.height_pos, ok_bind, sub_of_le hleft,
    ok_bind, div_of_pos hg.width_pos, ok_bind, Grid.buttonAt?]
  dsimp only
  by_cases hrow : (y - g.inner.y) / g.height < g.rows
  · rw [if_pos hrow, if_pos hrow]
    rfl
  rw [if_neg hrow, if_neg hrow]
  by_cases hcontrols : (y - g.inner.y) / g.height = g.rows ∧ g.hasControls = true
  · rw [if_pos hcontrols, if_pos hcontrols, controlCells_eq hg hlayout hfits]
    rfl
  · rw [if_neg hcontrols, if_neg hcontrols]
    rfl

end

/-- The hit test in words never fails, and finds the button that the hit test finds. -/
theorem hitTest_eq (hlayout : layout.IsGrid) (hfits : area.Fits) (x y : Nat) :
    hitTest layout wired area x y = .ok (Terminal.hitTest layout wired area x y) := by
  rw [hitTest, grid?_eq hlayout hfits, ok_bind, Terminal.hitTest]
  cases hg : Grid.of? layout wired area with
  | none => rfl
  | some g =>
    have hdiv := Grid.divides_of_of? hg
    obtain ⟨hright, hbottom⟩ := inner_fits hdiv hlayout hfits
    show (add g.inner.x g.inner.width >>= _) = _
    rw [add_of_le hright, ok_bind, add_of_le hbottom, ok_bind]
    -- the point is compared with each of the four sides, or with all of them at once
    have hout : (x < g.inner.x ∨ y < g.inner.y ∨ g.inner.x + g.inner.width ≤ x ∨
        g.inner.y + g.inner.height ≤ y) ↔ ¬g.inner.contains x y = true := by
      rw [Rect.contains_iff, Rect.right, Rect.bottom]
      omega
    by_cases hin : g.inner.contains x y = true
    · rw [if_neg (fun h => hout.mp h hin), buttonAt?_eq hdiv hlayout hfits hin]
      dsimp only
      rw [if_pos hin]
    · rw [if_pos (hout.mpr hin)]
      dsimp only
      rw [if_neg hin]
      rfl

end Word

/-! ## The points of a button -/

/-- The columns of a key. -/
def keyWidth (layout : Layout) (area : Rect) : Nat := (area.width - 2) / layout.cols

/-- The lines of a key and of a control. -/
def keyHeight (layout : Layout) (wired : Controls) (area : Rect) : Nat :=
  (area.height - 2) / (layout.rows + if wired.any then 1 else 0)

/-- Whether a point is one of a button. A key stands in the row and the column that its index tells;
the controls that are wired share the row behind those of the keys, the clear control in the left half
and the backspace in what is left. -/
def Covers (layout : Layout) (wired : Controls) (area : Rect) (b : Button) (x y : Nat) : Prop :=
  let left := area.x + 1
  let top := area.y + 1
  let width := area.width - 2
  let w := keyWidth layout area
  let h := keyHeight layout wired area
  match b with
  | .key i =>
    i < layout.keyCount ∧
      x ∈ Set.Ico (left + i % layout.cols * w) (left + (i % layout.cols + 1) * w) ∧
      y ∈ Set.Ico (top + i / layout.cols * h) (top + (i / layout.cols + 1) * h)
  | .control .clear =>
    wired.clear = true ∧ x ∈ Set.Ico left (left + width / 2) ∧
      y ∈ Set.Ico (top + layout.rows * h) (top + (layout.rows + 1) * h)
  | .control .backspace =>
    wired.backspace = true ∧ x ∈ Set.Ico (left + width / 2) (left + width) ∧
      y ∈ Set.Ico (top + layout.rows * h) (top + (layout.rows + 1) * h)

section

variable {layout : Layout} {wired : Controls} {area : Rect}

/-- Where a key has no room there is no button at all. -/
theorem hitTest_eq_none_of_no_room
    (hno : keyWidth layout area = 0 ∨ keyHeight layout wired area = 0) (x y : Nat) :
    hitTest layout wired area x y = none := by
  have hgrid : Grid.of? layout wired area = none := if_pos hno
  rw [hitTest, hgrid]

variable (hw : keyWidth layout area ≠ 0) (hh : keyHeight layout wired area ≠ 0)
include hw hh

/-- Where a key has room the grid is the one of these sizes. -/
theorem of?_eq_some : Grid.of? layout wired area =
    some ⟨area.inner, keyWidth layout area, keyHeight layout wired area, layout.rows, layout.cols,
      wired.any⟩ :=
  if_neg fun hno => hno.elim hw hh

theorem hitTest_eq_some_iff_covers (hlayout : layout.IsGrid) (b : Button) (x y : Nat) :
    hitTest layout wired area x y = some b ↔ Covers layout wired area b x y := by
  rw [hitTest_eq_some_iff (of?_eq_some hw hh)]
  cases b with
  | key i =>
    rw [Grid.Has, Grid.cell, Rect.contains_iff, ← hlayout.keyCount_eq]
    simp only [Covers, Grid.keyCell, Rect.inner, Rect.right, Rect.bottom, Set.mem_Ico, Nat.add_mul,
      Nat.one_mul, Nat.add_assoc, and_assoc]
  | control control =>
    rw [Grid.Has, Grid.cell, Rect.contains_iff]
    cases control with
    | clear =>
      simp only [Covers, Grid.controlCell, Rect.inner, Rect.right, Rect.bottom, Set.mem_Ico,
        Nat.add_mul, Nat.one_mul, Nat.add_assoc, and_assoc, Action.ofControl, Controls.permits]
    | backspace =>
      -- the halves of the width make up the width
      have hhalves : area.x + (1 + ((area.width - 2) / 2 +
          (area.width - 2 - (area.width - 2) / 2))) = area.x + (1 + (area.width - 2)) := by
        omega
      simp only [Covers, Grid.controlCell, Grid.middle, Rect.inner, Rect.right, Rect.bottom,
        Set.mem_Ico, Nat.add_mul, Nat.one_mul, Nat.add_assoc, and_assoc, Action.ofControl,
        Controls.permits, hhalves]

/-- The first point of a key's cell is one of the key. -/
theorem exists_covers_key {i : Nat} (hi : i < layout.keyCount) :
    ∃ x y, Covers layout wired area (.key i) x y := by
  have hcol : i % layout.cols * keyWidth layout area <
      (i % layout.cols + 1) * keyWidth layout area :=
    Nat.mul_lt_mul_of_pos_right (Nat.lt_succ_self _) (Nat.pos_of_ne_zero hw)
  have hrow : i / layout.cols * keyHeight layout wired area <
      (i / layout.cols + 1) * keyHeight layout wired area :=
    Nat.mul_lt_mul_of_pos_right (Nat.lt_succ_self _) (Nat.pos_of_ne_zero hh)
  exact ⟨_, _, hi, ⟨Nat.le_refl _, Nat.add_lt_add_left hcol _⟩,
    Nat.le_refl _, Nat.add_lt_add_left hrow _⟩

end

/-- A point of a button is inside the border. -/
theorem inside_of_hitTest {layout : Layout} {wired : Controls} {area : Rect} {b : Button}
    {x y : Nat} (h : hitTest layout wired area x y = some b) :
    area.x < x ∧ x + 1 < area.right ∧ area.y < y ∧ y + 1 < area.bottom := by
  unfold hitTest at h
  cases hg : Grid.of? layout wired area with
  | none =>
    rw [hg] at h
    cases h
  | some g =>
    rw [hg] at h
    dsimp only at h
    split at h
    case isFalse => cases h
    case isTrue hin =>
      -- a point that is tested is inside the border
      rw [(Grid.divides_of_of? hg).inner_eq, Rect.contains_iff] at hin
      unfold Rect.inner Rect.right Rect.bottom at hin
      unfold Rect.right Rect.bottom
      dsimp only at hin
      omega

/-! ## The hit test -/

/-- Two points at the same place of rectangles of one size belong to the same button. -/
theorem hitTest_eq_of_same_place {layout : Layout} (hlayout : layout.IsGrid) (wired : Controls)
    {area area' : Rect} (hwidth : area'.width = area.width) (hheight : area'.height = area.height)
    {x y x' y' : Nat} (hx : x' + area.x = x + area'.x) (hy : y' + area.y = y + area'.y) :
    hitTest layout wired area' x' y' = hitTest layout wired area x y := by
  have hw : keyWidth layout area' = keyWidth layout area := by
    rw [keyWidth, hwidth, keyWidth]
  have hh : keyHeight layout wired area' = keyHeight layout wired area := by
    rw [keyHeight, hheight, keyHeight]
  by_cases hroom : keyWidth layout area = 0 ∨ keyHeight layout wired area = 0
  · have hroom' : keyWidth layout area' = 0 ∨ keyHeight layout wired area' = 0 := by
      rwa [hw, hh]
    rw [hitTest_eq_none_of_no_room hroom, hitTest_eq_none_of_no_room hroom']
  · obtain ⟨hw0, hh0⟩ := not_or.mp hroom
    -- the cells have moved as the rectangle has, and the point with them
    have hcovers : ∀ b, Covers layout wired area' b x' y' ↔ Covers layout wired area b x y := by
      intro b
      rcases b with i | control
      · simp only [Covers, hw, hh, Set.mem_Ico]
        omega
      · rcases control with _ | _
        · simp only [Covers, hh, hwidth, Set.mem_Ico]
          refine and_congr_right fun _ => ?_
          omega
        · simp only [Covers, hh, hwidth, Set.mem_Ico]
          refine and_congr_right fun _ => ?_
          omega
    refine Option.ext fun b => ?_
    rw [hitTest_eq_some_iff_covers (hw ▸ hw0) (hh ▸ hh0) hlayout, hcovers,
      hitTest_eq_some_iff_covers hw0 hh0 hlayout]

/-- **The hit test is the grid of buttons.** In a rectangle that ends before the last coordinate, the
hit test in words never fails and finds what the hit test finds, for grids of any size. Where a key
has no room no point belongs to a button. Where it has room, the points of a button are those that it
covers, and all other points belong to none. So every key has a point, two buttons have none in
common, and none is on the border. What a point belongs to is told by its place in the rectangle,
wherever the rectangle is. -/
theorem hitTest_is_button_grid {rows : List (List String)} {layout : Layout}
    (h : Layout.ofRows rows = .ok layout) (wired : Controls) {area : Rect} (hfits : area.Fits) :
    (∀ x y, Word.hitTest layout wired area x y = .ok (hitTest layout wired area x y)) ∧
    (keyWidth layout area = 0 ∨ keyHeight layout wired area = 0 →
      ∀ x y, hitTest layout wired area x y = none) ∧
    (keyWidth layout area ≠ 0 → keyHeight layout wired area ≠ 0 →
      (∀ b x y, hitTest layout wired area x y = some b ↔ Covers layout wired area b x y) ∧
      (∀ x y, hitTest layout wired area x y = none ↔ ∀ b, ¬Covers layout wired area b x y) ∧
      (∀ i < layout.keyCount, ∃ x y, Covers layout wired area (.key i) x y) ∧
      (∀ b b' x y, Covers layout wired area b x y → Covers layout wired area b' x y → b = b') ∧
      ∀ b x y, Covers layout wired area b x y →
        area.x < x ∧ x + 1 < area.right ∧ area.y < y ∧ y + 1 < area.bottom) ∧
    ∀ (area' : Rect) x y x' y', area'.width = area.width → area'.height = area.height →
      x' + area.x = x + area'.x → y' + area.y = y + area'.y →
      hitTest layout wired area' x' y' = hitTest layout wired area x y := by
  have hlayout := Layout.isGrid_of_ofRows h
  refine ⟨Word.hitTest_eq hlayout hfits, hitTest_eq_none_of_no_room, fun hw hh => ?room, ?moved⟩
  case room =>
    have hcovers : ∀ b x y, hitTest layout wired area x y = some b ↔
        Covers layout wired area b x y := hitTest_eq_some_iff_covers hw hh hlayout
    refine ⟨hcovers, ?none, fun i hi => exists_covers_key hw hh hi, ?disjoint, ?inside⟩
    case none =>
      intro x y
      rw [Option.eq_none_iff_forall_ne_some]
      exact forall_congr' fun b => not_congr (hcovers b x y)
    case disjoint =>
      intro b b' x y hb hb'
      -- the hit test gives one button only
      have hsame : some b = some b' := ((hcovers b x y).mpr hb).symm.trans ((hcovers b' x y).mpr hb')
      exact Option.some.inj hsame
    case inside =>
      intro b x y hb
      exact inside_of_hitTest ((hcovers b x y).mpr hb)
  case moved =>
    intro area' x y x' y' hwidth hheight hx hy
    exact hitTest_eq_of_same_place hlayout wired hwidth hheight hx hy

/-- In the last corner of the largest terminal a point of the key `00` is one, and the same point of a
pad at the origin. -/
theorem hitTest_is_button_grid_corner :
    (⟨65509, 65523, 26, 12⟩ : Rect).Fits ∧
      Word.hitTest .satoshi .all ⟨65509, 65523, 26, 12⟩ 65513 65531 = .ok (some (.key 9)) ∧
      hitTest .satoshi .all ⟨0, 0, 26, 12⟩ 4 8 = some (.key 9) := by
  have hl : Layout.ofRows Layout.satoshiRows = .ok .satoshi := rfl
  have hfits : (⟨65509, 65523, 26, 12⟩ : Rect).Fits := by
    unfold Rect.Fits
    decide
  obtain ⟨hwords, -, hroom, hmoved⟩ := hitTest_is_button_grid hl .all hfits
  obtain ⟨hcovers, -⟩ := hroom (by decide) (by decide)
  have hkey : Covers .satoshi .all ⟨65509, 65523, 26, 12⟩ (.key 9) 65513 65531 :=
    ⟨by decide, ⟨by decide, by decide⟩, by decide, by decide⟩
  have hhit := (hcovers (.key 9) 65513 65531).mpr hkey
  refine ⟨hfits, ?_, ?_⟩
  · rw [hwords, hhit]
  · rw [hmoved ⟨0, 0, 26, 12⟩ 65513 65531 4 8 rfl rfl rfl rfl, hhit]

end AmountPad.Terminal
