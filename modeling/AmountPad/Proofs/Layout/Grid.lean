import Mathlib
import AmountPad.Proofs.Layout

/-!
# Layouts are grids

Rows of labels are read if they are the rows of a grid: there are some, they are of one width, and
no label is empty or stands twice. The keys of the layout are then the labels in row-major order, so
that the place of a key can be told from its index.

* `Layout.Rectangular` — rows of labels that make a layout;
* `Layout.IsGrid` — a layout whose keys stand on a grid under labels of their own.

Main results:

* `Layout.ofRows_eq_ok_iff` — the rows that are read, and what is made of them;
* `Layout.isGrid_of_ofRows` — a layout that was read is a grid;
* `Layout.IsGrid.positionOf?_eq_some_iff` — a label belongs to one key.
-/

namespace AmountPad

namespace Layout

/-! ## Rows that are read -/

/-- Labels go through the check if none is empty, stands twice or was seen before. -/
theorem checkLabels_eq_ok_iff {row col : Nat} {seen labels seen' : List String} :
    checkLabels row col seen labels = .ok seen' ↔
      "" ∉ labels ∧ labels.Nodup ∧ (∀ l ∈ labels, l ∉ seen) ∧ labels.reverse ++ seen = seen' := by
  induction labels generalizing col seen with
  | nil => simp [checkLabels]
  | cons label labels ih =>
    rw [checkLabels]
    by_cases hempty : label = ""
    · simp [hempty]
    · by_cases hseen : label ∈ seen
      · simp [hempty, hseen]
      · rw [if_neg hempty, if_neg hseen, ih]
        -- what is seen behind this label is what was seen before it, and the label
        simp only [List.mem_cons, List.nodup_cons, List.reverse_cons, List.append_assoc,
          List.singleton_append, forall_eq_or_imp, not_or]
        grind

/-- Rows go through the check if they are of the width, and none of their labels is empty, stands
twice or was seen before. -/
theorem checkRows_eq_ok_iff {width row : Nat} {seen : List String} {rows : List (List String)} :
    checkRows width row seen rows = .ok () ↔
      (∀ labels ∈ rows, labels.length = width) ∧ "" ∉ rows.flatten ∧ rows.flatten.Nodup ∧
        ∀ l ∈ rows.flatten, l ∉ seen := by
  induction rows generalizing row seen with
  | nil => simp [checkRows]
  | cons labels rest ih =>
    rw [checkRows]
    by_cases hwidth : labels.length = width
    · rw [if_neg (not_not_intro hwidth)]
      cases hc : checkLabels row 0 seen labels with
      | error flaw =>
        -- one of the labels is at fault, and it is one of all labels
        have hfault : ¬("" ∉ labels ∧ labels.Nodup ∧ ∀ l ∈ labels, l ∉ seen) := by
          rintro ⟨he, hn, hs⟩
          rw [checkLabels_eq_ok_iff.mpr ⟨he, hn, hs, rfl⟩] at hc
          exact nomatch hc
        simp only [bind, Except.bind, reduceCtorEq, false_iff]
        rintro ⟨-, he, hn, hs⟩
        rw [List.flatten_cons] at he hn hs
        exact hfault ⟨fun h => he (List.mem_append_left _ h), (List.nodup_append.mp hn).1,
          fun l hl => hs l (List.mem_append_left _ hl)⟩
      | ok seen' =>
        obtain ⟨he, hn, hs, rfl⟩ := checkLabels_eq_ok_iff.mp hc
        simp only [bind, Except.bind]
        rw [ih, List.flatten_cons, List.nodup_append]
        simp only [List.mem_cons, List.mem_append, List.mem_reverse, forall_eq_or_imp, not_or]
        grind
    · rw [if_pos hwidth]
      simp [hwidth]

/-- Rows of labels that make a layout: some rows of one width, with labels that are not empty and
differ from each other. -/
structure Rectangular (width : Nat) (rows : List (List String)) : Prop where
  rows_ne_nil : rows ≠ []
  width_pos : 0 < width
  even : ∀ labels ∈ rows, labels.length = width
  no_empty : "" ∉ rows.flatten
  nodup : rows.flatten.Nodup

/-- The rows that are read are those that make a layout. -/
theorem ofRows_eq_ok_iff {rows : List (List String)} {layout : Layout} :
    ofRows rows = .ok layout ↔
      ∃ width, Rectangular width rows ∧ layout = ⟨gridKeys 0 rows, rows.length, width⟩ := by
  match rows with
  | [] =>
    refine ⟨nofun, ?_⟩
    rintro ⟨width, hr, -⟩
    exact absurd rfl hr.rows_ne_nil
  | [] :: rest =>
    refine ⟨nofun, ?_⟩
    rintro ⟨width, hr, -⟩
    -- the first row would be of a width above zero
    exact absurd (hr.even [] List.mem_cons_self) (Nat.ne_of_lt hr.width_pos)
  | (label :: labels) :: rest =>
    unfold ofRows
    dsimp only
    constructor
    · intro h
      cases hc : checkRows (label :: labels).length 0 [] ((label :: labels) :: rest) with
      | error flaw =>
        rw [hc] at h
        exact nomatch h
      | ok u =>
        rw [hc] at h
        obtain ⟨heven, hempty, hnodup, -⟩ := checkRows_eq_ok_iff.mp hc
        exact ⟨_, ⟨by simp, Nat.succ_pos _, heven, hempty, hnodup⟩, (Except.ok.inj h).symm⟩
    · rintro ⟨width, hr, rfl⟩
      obtain rfl : (label :: labels).length = width := hr.even _ List.mem_cons_self
      have hc : checkRows (label :: labels).length 0 [] ((label :: labels) :: rest) = .ok () :=
        checkRows_eq_ok_iff.mpr ⟨hr.even, hr.no_empty, hr.nodup, by simp⟩
      rw [hc]
      rfl

/-! ## Places of keys -/

theorem getElem?_rowKeys (row col : Nat) (labels : List String) (i : Nat) :
    (rowKeys row col labels)[i]? = labels[i]?.map fun label => .ofLabel label row (col + i) := by
  induction labels generalizing col i with
  | nil => rfl
  | cons label labels ih =>
    cases i with
    | zero => rfl
    | succ i => rw [rowKeys, List.getElem?_cons_succ, List.getElem?_cons_succ, ih,
        Nat.add_right_comm, Nat.add_assoc]

theorem length_rowKeys (row col : Nat) (labels : List String) :
    (rowKeys row col labels).length = labels.length := by
  rw [← List.length_map (f := Key.label), map_label_rowKeys]

/-- The place of a key of even rows is told by its index. -/
theorem getElem?_gridKeys {width : Nat} (hw : 0 < width) (row : Nat) {rows : List (List String)}
    (heven : ∀ labels ∈ rows, labels.length = width) (i : Nat) :
    (gridKeys row rows)[i]? =
      rows.flatten[i]?.map fun label => .ofLabel label (row + i / width) (i % width) := by
  induction rows generalizing row i with
  | nil => rfl
  | cons labels rest ih =>
    have hlen : labels.length = width := heven labels List.mem_cons_self
    have hlenKeys : (rowKeys row 0 labels).length = width := (length_rowKeys _ _ _).trans hlen
    rw [gridKeys, List.flatten_cons]
    rcases Nat.lt_or_ge i width with hi | hi
    · rw [List.getElem?_append_left (by rwa [hlenKeys]), List.getElem?_append_left (by rwa [hlen]),
        getElem?_rowKeys, Nat.div_eq_of_lt hi, Nat.mod_eq_of_lt hi, Nat.zero_add, Nat.add_zero]
    · -- one row further, the index is one width less
      obtain ⟨j, rfl⟩ : ∃ j, i = j + width := ⟨i - width, (Nat.sub_add_cancel hi).symm⟩
      rw [List.getElem?_append_right (by rwa [hlenKeys]), List.getElem?_append_right (by rwa [hlen]),
        hlenKeys, hlen, Nat.add_sub_cancel, ih _ fun l hl => heven l (List.mem_cons_of_mem _ hl),
        Nat.add_div_right j hw, Nat.add_mod_right, Nat.add_assoc, Nat.add_comm 1]

/-- A layout whose keys fill a grid in row-major order, under labels of their own. -/
structure IsGrid (layout : Layout) : Prop where
  rows_pos : 0 < layout.rows
  cols_pos : 0 < layout.cols
  keyCount_eq : layout.keyCount = layout.rows * layout.cols
  /-- A key stands where its index says. -/
  key?_eq : ∀ i, layout.key? i =
    layout.labels[i]?.map fun label => .ofLabel label (i / layout.cols) (i % layout.cols)
  no_empty : "" ∉ layout.labels
  nodup : layout.labels.Nodup

/-- A layout that was read is a grid. -/
theorem isGrid_of_ofRows {rows : List (List String)} {layout : Layout}
    (h : ofRows rows = .ok layout) : layout.IsGrid := by
  have hlabels := labels_of_ofRows h
  obtain ⟨width, hr, rfl⟩ := ofRows_eq_ok_iff.mp h
  refine ⟨List.length_pos_iff.mpr hr.rows_ne_nil, hr.width_pos, ?_, ?_, ?_, ?_⟩
  · -- as many keys as labels, and these are so many rows of one width
    have hcount : (gridKeys 0 rows).length = rows.flatten.length := by
      rw [← List.length_map (f := Key.label), map_label_gridKeys]
    rw [keyCount, hcount, List.length_flatten, List.map_congr_left hr.even, List.map_const',
      List.sum_replicate, smul_eq_mul]
  · intro i
    rw [hlabels, key?, getElem?_gridKeys hr.width_pos 0 hr.even]
    simp only [Nat.zero_add]
  · rw [hlabels]
    exact hr.no_empty
  · rw [hlabels]
    exact hr.nodup

namespace IsGrid

variable {layout : Layout} (hg : layout.IsGrid)
include hg

/-- The place of a key is told by its index. -/
theorem place_of_key? {index : Nat} {key : Key} (h : layout.key? index = some key) :
    key.row = index / layout.cols ∧ key.col = index % layout.cols := by
  rw [hg.key?_eq] at h
  obtain ⟨label, -, rfl⟩ := Option.map_eq_some_iff.mp h
  exact ⟨rfl, rfl⟩

/-- A label belongs to the one key at which it stands. -/
theorem positionOf?_eq_some_iff {label : String} {i : Nat} :
    layout.positionOf? label = some i ↔ layout.labels[i]? = some label := by
  have hlabels : layout.positionOf? label = layout.labels.findIdx? (· == label) := by
    rw [positionOf?, labels, List.findIdx?_map]
    rfl
  rw [hlabels, List.findIdx?_eq_some_iff_getElem]
  constructor
  · rintro ⟨hlt, hp, -⟩
    rw [List.getElem?_eq_getElem hlt, beq_iff_eq.mp hp]
  · intro h
    obtain ⟨hlt, hl⟩ := List.getElem?_eq_some_iff.mp h
    refine ⟨hlt, beq_iff_eq.mpr hl, fun j hj hp => ?_⟩
    -- an earlier key with this label would be a second one
    have hsame : layout.labels[j]? = layout.labels[i]? := by
      rw [h, List.getElem?_eq_getElem (Nat.lt_trans hj hlt), beq_iff_eq.mp hp]
    exact Nat.ne_of_lt hj ((List.getElem?_inj (Nat.lt_trans hj hlt) hg.nodup).mp hsame)

end IsGrid

end Layout

end AmountPad
