import Mathlib
import AmountPad.Terminal.Panel
import AmountPad.Terminal.Writing

/-!
# What strokes leave on a screen

A picture is made of parts that are drawn one after the other, and a cell shows what the last of them
has left there. Where no part draws what another one does, the order is of no matter, and a cell can
be told from the one part that has to do with it. This module says which cells the parts have to do
with.

* `strokesOn` — the strokes on one cell;
* `inkRow` — inks side by side in one row;
* `Screen.window`, `Screen.cell?` — what is seen in a part of a screen, and one cell of it.

Main results:

* `cellAt_eq` — a cell is what the strokes on it leave;
* `strokesOn_flatMap_of_unique` — of several parts only one has to do with a cell;
* `cellAt_inkRow`, `map_cellAt_inkRow` — a cell of a row of inks, and all of its cells;
* `strokesOn_panel_inside`, `contains_of_mem_panel` — a panel leaves its inside alone, and what is
  around it;
* `Screen.cell?_eq` — a cell of a part of a screen is told by the strokes on it.
-/

namespace AmountPad.Terminal

/-! ## The strokes on a cell -/

/-- The strokes on one cell. -/
def strokesOn (strokes : List Stroke) (x y : Nat) : List Stroke :=
  strokes.filter fun s => s.x = x ∧ s.y = y

/-- A cell is what the strokes on it leave. -/
theorem cellAt_eq (strokes : List Stroke) (x y : Nat) :
    cellAt strokes x y = (strokesOn strokes x y).foldl (fun cell s => s.ink.apply cell) {} := by
  unfold cellAt cellIn rowOf strokesOn
  generalize ({} : Cell) = cell
  induction strokes generalizing cell with
  | nil => rfl
  | cons s rest ih =>
    by_cases hy : s.y = y
    · by_cases hx : s.x = x
      · rw [List.filter_cons_of_pos (by simpa using hy), List.filter_cons_of_pos (by simp [hx, hy]),
          List.foldl_cons, List.foldl_cons, if_pos hx, ih]
      · rw [List.filter_cons_of_pos (by simpa using hy), List.filter_cons_of_neg (by simp [hx]),
          List.foldl_cons, if_neg hx, ih]
    · rw [List.filter_cons_of_neg (by simpa using hy), List.filter_cons_of_neg (by simp [hy]), ih]

section

variable {x y : Nat}

/-- A cell shows what the strokes on it make of it, and no others. -/
theorem cellAt_congr {strokes strokes' : List Stroke}
    (h : strokesOn strokes x y = strokesOn strokes' x y) :
    cellAt strokes x y = cellAt strokes' x y := by
  rw [cellAt_eq, cellAt_eq, h]

/-- A cell without a stroke is blank. -/
theorem cellAt_of_strokesOn_eq_nil {strokes : List Stroke} (h : strokesOn strokes x y = []) :
    cellAt strokes x y = {} := by
  rw [cellAt_eq, h, List.foldl_nil]

theorem strokesOn_append (strokes others : List Stroke) :
    strokesOn (strokes ++ others) x y = strokesOn strokes x y ++ strokesOn others x y :=
  List.filter_append ..

/-- There is no stroke on a cell exactly if every stroke is in another column or row. -/
theorem strokesOn_eq_nil_iff {strokes : List Stroke} :
    strokesOn strokes x y = [] ↔ ∀ s ∈ strokes, s.x = x → s.y ≠ y := by
  unfold strokesOn
  rw [List.filter_eq_nil_iff]
  simp only [decide_eq_true_eq, not_and, ne_eq]

/-- Where no other part has a stroke on a cell, the cell is told by the one part. -/
theorem strokesOn_flatMap_of_unique {α : Type} {parts : List α} (hnodup : parts.Nodup)
    {draw : α → List Stroke} {part : α} (hmem : part ∈ parts)
    (hothers : ∀ other ∈ parts, other ≠ part → strokesOn (draw other) x y = []) :
    strokesOn (parts.flatMap draw) x y = strokesOn (draw part) x y := by
  obtain ⟨before, behind, rfl⟩ := List.append_of_mem hmem
  -- the part stands in one place only, so that all in front and all behind are others
  have hfront : ∀ other ∈ before, strokesOn (draw other) x y = [] := by
    intro other ho
    refine hothers other (List.mem_append_left _ ho) ?_
    rintro rfl
    exact (List.nodup_append.mp hnodup).2.2 _ ho _ List.mem_cons_self rfl
  have hback : ∀ other ∈ behind, strokesOn (draw other) x y = [] := by
    intro other ho
    refine hothers other (List.mem_append_right _ (List.mem_cons_of_mem _ ho)) ?_
    rintro rfl
    exact (List.nodup_cons.mp (List.nodup_append.mp hnodup).2.1).1 ho
  unfold strokesOn at *
  rw [List.filter_flatMap, List.flatMap_append, List.flatMap_cons, List.flatMap_eq_nil_iff.mpr hfront,
    List.flatMap_eq_nil_iff.mpr hback, List.nil_append, List.append_nil]

end

/-! ## Rows of inks -/

/-- Inks side by side in a row, from a column on. -/
def inkRow (x y : Nat) (inks : List Ink) : List Stroke := inks.mapIdx fun i ink => ⟨x + i, y, ink⟩

/-- A row is its first ink and the row of the others one column further. -/
theorem inkRow_cons (x y : Nat) (ink : Ink) (inks : List Ink) :
    inkRow x y (ink :: inks) = ⟨x, y, ink⟩ :: inkRow (x + 1) y inks := by
  unfold inkRow
  rw [List.mapIdx_cons]
  simp only [Nat.add_zero, Nat.add_right_comm x, Nat.add_assoc]

/-- A row of inks is drawn on as many cells as there are inks. -/
theorem bounds_of_mem_inkRow {x y : Nat} {inks : List Ink} {s : Stroke} (h : s ∈ inkRow x y inks) :
    s.y = y ∧ x ≤ s.x ∧ s.x < x + inks.length := by
  unfold inkRow at h
  obtain ⟨i, hi, rfl⟩ := List.mem_mapIdx.mp h
  exact ⟨rfl, Nat.le_add_right x i, Nat.add_lt_add_left hi x⟩

/-- No other cell of its row has an ink, -/
theorem strokesOn_inkRow_eq_nil {x y x' : Nat} {inks : List Ink}
    (h : x' < x ∨ x + inks.length ≤ x') : strokesOn (inkRow x y inks) x' y = [] := by
  rw [strokesOn_eq_nil_iff]
  intro s hs hx
  have hbounds := bounds_of_mem_inkRow hs
  omega

/-- and on each of these cells there is one. -/
theorem strokesOn_inkRow (x y i : Nat) (inks : List Ink) :
    strokesOn (inkRow x y inks) (x + i) y =
      (inks[i]?.map fun ink => (⟨x + i, y, ink⟩ : Stroke)).toList := by
  induction inks generalizing x i with
  | nil => rfl
  | cons ink rest ih =>
    rw [inkRow_cons]
    unfold strokesOn
    cases i with
    | zero =>
      -- what follows starts one column further
      have hrest : strokesOn (inkRow (x + 1) y rest) x y = [] :=
        strokesOn_inkRow_eq_nil (.inl (Nat.lt_succ_self x))
      unfold strokesOn at hrest
      rw [Nat.add_zero, List.filter_cons_of_pos (by simp), hrest]
      rfl
    | succ i =>
      have hih := ih (x + 1) i
      rw [Nat.add_right_comm, Nat.add_assoc] at hih
      unfold strokesOn at hih
      rw [List.filter_cons_of_neg (by simp), hih, List.getElem?_cons_succ]

/-- A cell of a row of inks is made by its own ink. -/
theorem cellAt_inkRow {x y i : Nat} {inks : List Ink} {ink : Ink} (h : inks[i]? = some ink) :
    cellAt (inkRow x y inks) (x + i) y = ink.apply {} := by
  rw [cellAt_eq, strokesOn_inkRow, h]
  rfl

/-- The cells of a row of inks, with those in front of it. -/
theorem map_cellAt_inkRow (x y n : Nat) (inks : List Ink) :
    (List.range' x (n + inks.length)).map (fun x' => cellAt (inkRow (x + n) y inks) x' y) =
      List.replicate n ({} : Cell) ++ inks.map fun ink => ink.apply {} := by
  rw [← List.range'_append_1, List.map_append]
  congr 1
  · have hblank : ∀ x' ∈ List.range' x n, cellAt (inkRow (x + n) y inks) x' y = {} := by
      intro x' hx'
      rw [List.mem_range'_1] at hx'
      exact cellAt_of_strokesOn_eq_nil (strokesOn_inkRow_eq_nil (.inl hx'.2))
    rw [List.map_congr_left hblank, List.map_const', List.length_range']
  · refine List.ext_getElem (by simp) fun i hi hi' => ?_
    rw [List.length_map] at hi'
    rw [List.getElem_map, List.getElem_map, List.getElem_range', Nat.one_mul,
      cellAt_inkRow (List.getElem?_eq_getElem hi')]

/-! ## Panels -/

/-- A panel leaves its inside alone: its edges are around it, and the title is in the upper one. -/
theorem strokesOn_panel_inside {style : Style} {title : String} {r : Rect} {x y : Nat}
    (h : r.inner.contains x y = true) : strokesOn (panel style title r) x y = [] := by
  rw [Rect.contains_iff] at h
  unfold Rect.inner Rect.right Rect.bottom at h
  dsimp only at h
  rw [strokesOn_eq_nil_iff]
  intro s hs hx hy
  unfold panel at hs
  split at hs
  · exact absurd hs List.not_mem_nil
  · rw [List.mem_append] at hs
    rcases hs with hedge | htitle
    · unfold border Rect.right Rect.bottom Stroke.put at hedge
      simp only [List.mem_append, List.mem_map, List.mem_cons, List.not_mem_nil, or_false] at hedge
      -- every stroke of the border is in its first or last row or column
      rcases hedge with (((⟨_, _, rfl⟩ | ⟨_, _, rfl⟩) | ⟨_, _, rfl⟩) | ⟨_, _, rfl⟩) |
        rfl | rfl | rfl | rfl
      all_goals
        dsimp only at hx hy
        omega
    · unfold inscribe Stroke.put at htitle
      obtain ⟨i, hi, rfl⟩ := List.mem_mapIdx.mp htitle
      dsimp only at hy
      omega

/-- A panel is drawn on its rectangle only. -/
theorem contains_of_mem_panel {style : Style} {title : String} {r : Rect} {s : Stroke}
    (h : s ∈ panel style title r) : r.contains s.x s.y = true := by
  unfold panel at h
  split at h
  case isTrue => exact absurd h List.not_mem_nil
  case isFalse hsome =>
    unfold Rect.isEmpty at hsome
    rw [Bool.or_eq_true, beq_iff_eq, beq_iff_eq, not_or] at hsome
    rw [Rect.contains_iff]
    rcases List.mem_append.mp h with hedge | htitle
    · unfold border Stroke.put at hedge
      simp only [List.mem_append, List.mem_map, List.mem_cons, List.not_mem_nil, or_false,
        List.mem_range'_1] at hedge
      unfold Rect.right Rect.bottom at *
      rcases hedge with (((⟨_, _, rfl⟩ | ⟨_, _, rfl⟩) | ⟨_, _, rfl⟩) | ⟨_, _, rfl⟩) |
        rfl | rfl | rfl | rfl
      all_goals
        dsimp only
        omega
    · unfold inscribe Stroke.put at htitle
      obtain ⟨i, hi, rfl⟩ := List.mem_mapIdx.mp htitle
      -- the title leaves the two corners free
      have hroom := List.length_take_le (r.width - 2) title.toList
      unfold Rect.right Rect.bottom
      dsimp only
      omega

/-! ## Parts of a screen -/

/-- Whether a rectangle is a part of another. -/
def Rect.Within (r whole : Rect) : Prop :=
  whole.x ≤ r.x ∧ r.right ≤ whole.right ∧ whole.y ≤ r.y ∧ r.bottom ≤ whole.bottom

/-- The inside of a border is within it, if there is any. -/
theorem Rect.inner_within {r : Rect} (hwidth : 0 < r.inner.width) (hheight : 0 < r.inner.height) :
    r.inner.Within r := by
  unfold Within right bottom
  unfold inner at *
  dsimp only at *
  omega

/-- The points of a rectangle, counted from its corner. -/
theorem Rect.contains_corner_iff {r : Rect} {x y : Nat} :
    r.contains (r.x + x) (r.y + y) = true ↔ x < r.width ∧ y < r.height := by
  rw [contains_iff]
  unfold right bottom
  omega

namespace Screen

/-- What is seen in a part of a screen, row by row. -/
def window (s : Screen) (r : Rect) : List (List Cell) :=
  ((s.cells.drop (r.y - s.area.y)).take r.height).map fun row =>
    (row.drop (r.x - s.area.x)).take r.width

/-- The cell in a column and a row of a part of a screen. -/
def cell? (s : Screen) (r : Rect) (x y : Nat) : Option Cell := (s.window r)[y]?.bind (·[x]?)

variable {s : Screen} {r : Rect} (hr : r.Within s.area)
include hr

/-- A window shows the cells of its rectangle, row by row. -/
theorem window_eq : s.window r = (List.range' r.y r.height).map fun y =>
    (List.range' r.x r.width).map fun x => cellAt s.strokes x y := by
  obtain ⟨hleft, hright, htop, hbottom⟩ := hr
  unfold Rect.right at hright
  unfold Rect.bottom at hbottom
  -- the part begins so many rows and columns behind the corner of the screen, and does not go beyond
  have hrows : ((List.range' s.area.y s.area.height).drop (r.y - s.area.y)).take r.height =
      List.range' r.y r.height := by
    rw [List.drop_range', List.take_range'_of_length_ge (by omega), Nat.mul_one,
      Nat.add_sub_cancel' htop]
  have hcolumns : ((List.range' s.area.x s.area.width).drop (r.x - s.area.x)).take r.width =
      List.range' r.x r.width := by
    rw [List.drop_range', List.take_range'_of_length_ge (by omega), Nat.mul_one,
      Nat.add_sub_cancel' hleft]
  unfold window cells
  rw [← List.map_drop, ← List.map_take, hrows, List.map_map]
  refine List.map_congr_left fun y _ => ?_
  show (((List.range' s.area.x s.area.width).map _).drop _).take _ = _
  rw [← List.map_drop, ← List.map_take, hcolumns]
  rfl

/-- A cell of a window is the one at its place in the rectangle. -/
theorem cell?_eq {x y : Nat} (hx : x < r.width) (hy : y < r.height) :
    s.cell? r x y = some (cellAt s.strokes (r.x + x) (r.y + y)) := by
  unfold cell?
  rw [window_eq hr, List.getElem?_map, List.getElem?_range' hy]
  simp only [Option.map_some, Option.bind_some, Nat.one_mul]
  rw [List.getElem?_map, List.getElem?_range' hx]
  simp only [Option.map_some, Nat.one_mul]

end Screen

end AmountPad.Terminal
