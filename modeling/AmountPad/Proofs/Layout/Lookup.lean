import Mathlib
import AmountPad.Proofs.Layout.Grid

/-!
# Every lookup goes by the index of a key

The keys of a layout are its labels in one line. Cut into pieces of the width of the grid, this line
is the rows again; and since a key is told by its index, by its place, by its label and by its
identifier, each lookup is another way to ask for the same key.

* `Layout.LookupsAgree` — what the lookups of a layout have to do with each other.

Main results:

* `Layout.labelRows_of_ofRows` — the rows that a layout was read from come back;
* `Key.idAt_inj` — places have identifiers of their own;
* `Layout.IsGrid.keyAt?_eq_some_iff` — the key at a place is the one that carries it;
* `Layout.IsGrid.findId?_eq_some_iff` — the identifiers that are found are those of the places;
* `Layout.rows_and_lookups_agree` — all of it for every layout that can be read.
-/

namespace AmountPad

/-! ## Identifiers of keys -/

/-- Places have identifiers of their own. -/
theorem Key.idAt_inj {row col row' col' : Nat} :
    idAt row col = idAt row' col' ↔ row = row' ∧ col = col' := by
  refine ⟨fun h => ?_, fun h => by rw [h.1, h.2]⟩
  have hlists := congrArg String.toList h
  simp only [idAt, String.toList_append, List.append_assoc] at hlists
  -- the row ends at the dash, and the column at the end
  obtain ⟨hrow, hdash⟩ :=
    numeral_append_inj (by simp) (by simp) (List.append_cancel_left hlists)
  have hcol := String.toList_inj.mp (List.append_cancel_left hdash)
  exact ⟨hrow, Nat.repr_inj.mp hcol⟩

namespace Layout

/-! ## Rows out of one line -/

/-- Rows of one width, put behind each other and cut at that width, are the rows again. -/
theorem map_take_drop_flatten {width : Nat} {rows : List (List String)}
    (heven : ∀ labels ∈ rows, labels.length = width) :
    (List.range rows.length).map (fun row => (rows.flatten.drop (row * width)).take width) =
      rows := by
  induction rows with
  | nil => rfl
  | cons labels rest ih =>
    have hlen : labels.length = width := heven labels List.mem_cons_self
    have hrest := ih fun l hl => heven l (List.mem_cons_of_mem _ hl)
    rw [List.length_cons, List.range_succ_eq_map, List.map_cons, List.map_map, List.flatten_cons]
    -- the first piece is the first row
    have hfirst : ((labels ++ rest.flatten).drop (0 * width)).take width = labels := by
      rw [Nat.zero_mul, List.drop_zero]
      exact List.take_left' hlen
    rw [hfirst]
    -- and every later piece is the one before it in the line without that row
    refine congrArg (labels :: ·) (Eq.trans (List.map_congr_left fun row _ => ?_) hrest)
    show ((labels ++ rest.flatten).drop ((row + 1) * width)).take width = _
    rw [Nat.succ_mul, Nat.add_comm, ← List.drop_drop, List.drop_left' hlen]

/-- The rows that a layout was read from come back. -/
theorem labelRows_of_ofRows {rows : List (List String)} {layout : Layout}
    (h : ofRows rows = .ok layout) : layout.labelRows = rows := by
  have hlabels := labels_of_ofRows h
  obtain ⟨width, hr, rfl⟩ := ofRows_eq_ok_iff.mp h
  rw [labels] at hlabels
  unfold labelRows
  simp only [List.map_take, List.map_drop, hlabels]
  exact map_take_drop_flatten hr.even

/-! ## Keys by their place -/

namespace IsGrid

variable {layout : Layout} (hg : layout.IsGrid)
include hg

/-- There is a key at every place of the grid, and it carries that place. -/
theorem exists_key?_of_lt {row col : Nat} (hr : row < layout.rows) (hc : col < layout.cols) :
    ∃ label, layout.key? (row * layout.cols + col) = some (.ofLabel label row col) := by
  have hlt : row * layout.cols + col < layout.labels.length := by
    have hcount := hg.keyCount_eq
    -- the rows in front and this one are no more than there are
    have hrows : (row + 1) * layout.cols ≤ layout.rows * layout.cols :=
      Nat.mul_le_mul_right _ hr
    rw [Nat.succ_mul] at hrows
    rw [labels, List.length_map, ← keyCount, hcount]
    omega
  have hdiv : (row * layout.cols + col) / layout.cols = row := by
    rw [Nat.mul_comm, Nat.mul_add_div hg.cols_pos, Nat.div_eq_of_lt hc, Nat.add_zero]
  have hmod : (row * layout.cols + col) % layout.cols = col := by
    rw [Nat.mul_comm, Nat.mul_add_mod, Nat.mod_eq_of_lt hc]
  refine ⟨layout.labels[row * layout.cols + col], ?_⟩
  rw [hg.key?_eq, List.getElem?_eq_getElem hlt, Option.map_some, hdiv, hmod]

/-- The place of a key tells its index. -/
theorem index_eq_of_key? {index : Nat} {key : Key} (h : layout.key? index = some key) :
    index = key.row * layout.cols + key.col := by
  obtain ⟨hrow, hcol⟩ := hg.place_of_key? h
  rw [hrow, hcol, Nat.mul_comm, Nat.div_add_mod]

/-- A key stands inside the grid, at the place that its identifier names. -/
theorem place_of_mem {key : Key} (h : key ∈ layout.keys) :
    key.row < layout.rows ∧ key.col < layout.cols ∧
      layout.key? (key.row * layout.cols + key.col) = some key ∧
      key.id = Key.idAt key.row key.col := by
  obtain ⟨index, hi⟩ : ∃ index, layout.key? index = some key := List.mem_iff_getElem?.mp h
  have hlt : index < layout.keyCount := (List.getElem?_eq_some_iff.mp hi).1
  -- row and column of a key are quotient and remainder of its index
  have hindex := hg.index_eq_of_key? hi
  obtain ⟨hrow, hcol⟩ := hg.place_of_key? hi
  refine ⟨?_, ?_, hindex ▸ hi, ?_⟩
  · rw [hrow, Nat.div_lt_iff_lt_mul hg.cols_pos, ← hg.keyCount_eq]
    exact hlt
  · rw [hcol]
    exact Nat.mod_lt _ hg.cols_pos
  · -- the identifier was made of the place
    rw [hg.key?_eq] at hi
    obtain ⟨label, -, rfl⟩ := Option.map_eq_some_iff.mp hi
    rfl

/-- The key at a place is the one that carries this place. -/
theorem keyAt?_eq_some_iff {row col : Nat} {key : Key} :
    layout.keyAt? row col = some key ↔ key ∈ layout.keys ∧ key.row = row ∧ key.col = col := by
  constructor
  · intro h
    unfold keyAt? at h
    split at h
    · next hlt =>
      obtain ⟨label, hkey⟩ := hg.exists_key?_of_lt hlt.1 hlt.2
      refine ⟨List.mem_of_getElem? h, ?_⟩
      rw [hkey] at h
      obtain rfl := Option.some.inj h
      exact ⟨rfl, rfl⟩
    · exact nomatch h
  · rintro ⟨hmem, rfl, rfl⟩
    obtain ⟨hrow, hcol, hkey, -⟩ := hg.place_of_mem hmem
    rw [keyAt?, if_pos ⟨hrow, hcol⟩, hkey]

/-! ## Keys by their identifier -/

/-- Keys of a grid have identifiers of their own. -/
theorem eq_of_id_eq {i j : Nat} {key key' : Key} (hi : layout.key? i = some key)
    (hj : layout.key? j = some key') (h : key.id = key'.id) : i = j := by
  obtain ⟨-, -, -, hid⟩ := hg.place_of_mem (List.mem_of_getElem? hi)
  obtain ⟨-, -, -, hid'⟩ := hg.place_of_mem (List.mem_of_getElem? hj)
  rw [hid, hid', Key.idAt_inj] at h
  rw [hg.index_eq_of_key? hi, hg.index_eq_of_key? hj, h.1, h.2]

/-- The identifiers of the keys are those of the places. -/
theorem exists_id_eq_iff {id : String} : (∃ key ∈ layout.keys, key.id = id) ↔
    ∃ row < layout.rows, ∃ col < layout.cols, id = Key.idAt row col := by
  constructor
  · rintro ⟨key, hmem, rfl⟩
    obtain ⟨hrow, hcol, -, hid⟩ := hg.place_of_mem hmem
    exact ⟨key.row, hrow, key.col, hcol, hid⟩
  · rintro ⟨row, hrow, col, hcol, rfl⟩
    obtain ⟨label, hkey⟩ := hg.exists_key?_of_lt hrow hcol
    exact ⟨_, List.mem_of_getElem? hkey, rfl⟩

/-- The identifiers that are found are those of the places, and what is found is the key there. -/
theorem findId?_eq_some_iff {id : String} {key : Key} :
    layout.findId? id = some key ↔ ∃ row col, id = Key.idAt row col ∧
      layout.keyAt? row col = some key := by
  constructor
  · intro h
    have hmem : key ∈ layout.keys := List.mem_of_find?_eq_some h
    have hid : key.id = id := by simpa using List.find?_some h
    obtain ⟨-, -, -, hplace⟩ := hg.place_of_mem hmem
    exact ⟨key.row, key.col, hid ▸ hplace, hg.keyAt?_eq_some_iff.mpr ⟨hmem, rfl, rfl⟩⟩
  · rintro ⟨row, col, rfl, hkey⟩
    obtain ⟨hmem, rfl, rfl⟩ := hg.keyAt?_eq_some_iff.mp hkey
    obtain ⟨-, -, hi, hplace⟩ := hg.place_of_mem hmem
    -- the search stops somewhere, and no other key has this identifier
    cases hf : layout.findId? (Key.idAt key.row key.col) with
    | none =>
      have hno := List.find?_eq_none.mp hf key hmem
      exact absurd (beq_iff_eq.mpr hplace) hno
    | some other =>
      have hid : other.id = key.id := by
        rw [hplace]
        simpa using List.find?_some hf
      obtain ⟨-, -, hother, -⟩ := hg.place_of_mem (List.mem_of_find?_eq_some hf)
      rw [hg.eq_of_id_eq hother hi hid, hi] at hother
      exact hother.symm

end IsGrid

/-! ## All lookups -/

/-- The lookups of a layout are views of one numbering of its keys. -/
structure LookupsAgree (layout : Layout) : Prop where
  /-- There is a key at the places of the grid and nowhere else. -/
  keyAt?_isSome : ∀ row col,
    (layout.keyAt? row col).isSome = true ↔ row < layout.rows ∧ col < layout.cols
  /-- A place tells the index of its key, and the key carries the place. -/
  keyAt?_eq : ∀ row col key, layout.keyAt? row col = some key →
    layout.key? (row * layout.cols + col) = some key ∧ key.row = row ∧ key.col = col
  /-- A label is at the index of the key that has it. -/
  positionOf?_eq : ∀ label index, layout.positionOf? label = some index ↔
    (layout.key? index).map Key.label = some label
  /-- The key with a label is the one at the index of the label. -/
  findLabel?_eq : ∀ label, layout.findLabel? label = (layout.positionOf? label).bind layout.key?
  /-- The key with an identifier is the one at the place that the identifier names, row and column
  in decimal digits. -/
  findId?_eq : ∀ id key, layout.findId? id = some key ↔
    ∃ row < layout.rows, ∃ col < layout.cols,
      id = "key-" ++ toString row ++ "-" ++ toString col ∧ layout.keyAt? row col = some key
  /-- No two keys share an identifier. -/
  id_inj : ∀ i j key key', layout.key? i = some key → layout.key? j = some key' →
    key.id = key'.id → i = j

theorem IsGrid.lookupsAgree {layout : Layout} (hg : layout.IsGrid) : layout.LookupsAgree where
  keyAt?_isSome := by
    intro row col
    unfold keyAt?
    split
    · next hlt =>
      obtain ⟨label, hkey⟩ := hg.exists_key?_of_lt hlt.1 hlt.2
      simp [hkey, hlt]
    · next hlt => simp [hlt]
  keyAt?_eq := by
    intro row col key h
    -- a key found at a place is the one at the index of the place
    have hplace := (hg.keyAt?_eq_some_iff.mp h).2
    unfold keyAt? at h
    split at h
    · exact ⟨h, hplace⟩
    · exact nomatch h
  positionOf?_eq := by
    intro label index
    rw [hg.positionOf?_eq_some_iff, labels, List.getElem?_map]
    rfl
  findLabel?_eq := fun label => List.find?_eq_bind_findIdx?_getElem?
  findId?_eq := by
    intro id key
    -- an identifier tells a place, at which its key stands
    rw [hg.findId?_eq_some_iff]
    constructor
    · rintro ⟨row, col, rfl, hkey⟩
      obtain ⟨hmem, rfl, rfl⟩ := hg.keyAt?_eq_some_iff.mp hkey
      obtain ⟨hrow, hcol, -⟩ := hg.place_of_mem hmem
      exact ⟨key.row, hrow, key.col, hcol, rfl, hkey⟩
    · rintro ⟨row, -, col, -, rfl, hkey⟩
      exact ⟨row, col, rfl, hkey⟩
  id_inj := fun _ _ _ _ hi hj h => hg.eq_of_id_eq hi hj h

/-- **Rows come back, and every lookup goes by the index of a key.** A layout that was read from
rows gives these rows back, and reads the same from them again. All its lookups, by place, by label
and by identifier, are views of one numbering of its keys. -/
theorem rows_and_lookups_agree {rows : List (List String)} {layout : Layout}
    (h : ofRows rows = .ok layout) :
    layout.labelRows = rows ∧ ofRows layout.labelRows = .ok layout ∧ layout.LookupsAgree := by
  have hrows := labelRows_of_ofRows h
  exact ⟨hrows, hrows.symm ▸ h, (isGrid_of_ofRows h).lookupsAgree⟩

/-- A layout on which two keys are labelled with the identifiers of each other. -/
def crossed : Layout := ⟨gridKeys 0 [["key-1-0", "7"], ["key-0-0", "-1"]], 2, 2⟩

theorem rows_and_lookups_agree_crossed :
    ofRows [["key-1-0", "7"], ["key-0-0", "-1"]] = .ok crossed ∧
      crossed.labelRows = [["key-1-0", "7"], ["key-0-0", "-1"]] ∧
      crossed.positionOf? "key-0-0" = some 2 ∧
      crossed.findId? "key-0-0" = some (.ofLabel "key-1-0" 0 0) ∧
      (crossed.keyAt? 1 2).isSome = false := by
  have h : ofRows [["key-1-0", "7"], ["key-0-0", "-1"]] = .ok crossed := by rfl
  obtain ⟨hrows, -, hagree⟩ := rows_and_lookups_agree h
  refine ⟨h, hrows, (hagree.positionOf?_eq _ _).mpr rfl, ?id, ?outside⟩
  case id => exact (hagree.findId?_eq _ _).mpr ⟨0, by decide, 0, by decide, rfl, rfl⟩
  case outside =>
    rw [← Bool.not_eq_true, hagree.keyAt?_isSome]
    decide

end Layout

end AmountPad
