import Mathlib
import AmountPad.Button
import AmountPad.Failure

/-!
# Layouts that rows of labels make

A layout that is read from rows has one key for each label, in the order of the labels, under an
identifier that tells the place of the key. What its keys ask for can be said by its labels alone.

* `Layout.labels` — the labels in row-major order.

Main results:

* `Layout.labels_of_ofRows` — the labels of a layout are those of the rows that it was read from;
* `Layout.map_action_findLabel?` — a text that is a label asks for its own append, any other text
  for nothing;
* `Layout.exists_id_eq_idAt` — every key has the identifier of a grid position;
* `numeral_append_inj` — what numbers an identifier or a message was made of.
-/

namespace AmountPad

/-! ## Numbers in texts -/

/-- A number in a text ends where its digits do. -/
theorem numeral_append_inj {m n : Nat} {cs ds : List Char}
    (hc : cs.head?.all (!·.isDigit) = true) (hd : ds.head?.all (!·.isDigit) = true)
    (h : (toString m).toList ++ cs = (toString n).toList ++ ds) : m = n ∧ cs = ds := by
  rw [Nat.toString_eq_ofList_toDigits, Nat.toString_eq_ofList_toDigits, String.toList_ofList,
    String.toList_ofList] at h
  have hfront : ∀ (k : Nat) (rest : List Char), rest.head?.all (!·.isDigit) = true →
      (Nat.toDigits 10 k ++ rest).takeWhile Char.isDigit = Nat.toDigits 10 k := by
    intro k rest hrest
    have hdigits : ∀ c ∈ Nat.toDigits 10 k, c.isDigit = true := fun c hc =>
      Nat.isDigit_of_mem_toDigits (by decide) (by decide) hc
    rw [List.takeWhile_append_of_pos hdigits]
    -- what stands behind the digits begins with none
    cases rest with
    | nil => simp
    | cons c rest =>
      rw [List.takeWhile_cons_of_neg (by simpa using hrest), List.append_nil]
  have hdigits : Nat.toDigits 10 m = Nat.toDigits 10 n := by
    rw [← hfront m cs hc, h, hfront n ds hd]
  refine ⟨?_, ?_⟩
  · rw [← Nat.ofDigitChars_ten_toDigits (n := m), hdigits, Nat.ofDigitChars_ten_toDigits]
  · rw [hdigits] at h
    exact List.append_cancel_left h

namespace Layout

/-- The labels of the keys, row by row. -/
def labels (layout : Layout) : List String := layout.keys.map Key.label

theorem length_labels (layout : Layout) : layout.labels.length = layout.keyCount := List.length_map ..

theorem lt_keyCount_of_label {layout : Layout} {index : Nat} {label : String}
    (h : layout.labels[index]? = some label) : index < layout.keyCount := by
  obtain ⟨hlt, -⟩ := List.getElem?_eq_some_iff.mp h
  rwa [length_labels] at hlt

/-! ## Keys of a grid -/

theorem map_label_rowKeys (row col : Nat) (labels : List String) :
    (rowKeys row col labels).map Key.label = labels := by
  induction labels generalizing col with
  | nil => rfl
  | cons label labels ih => rw [rowKeys, List.map_cons, ih, Key.ofLabel]

/-- The keys of some rows have their labels, row by row. -/
theorem map_label_gridKeys (row : Nat) (rows : List (List String)) :
    (gridKeys row rows).map Key.label = rows.flatten := by
  induction rows generalizing row with
  | nil => rfl
  | cons labels rest ih =>
    rw [gridKeys, List.map_append, map_label_rowKeys, ih, List.flatten_cons]

theorem exists_id_rowKeys {row col : Nat} {labels : List String} {key : Key}
    (hk : key ∈ rowKeys row col labels) : ∃ col', key.id = Key.idAt row col' := by
  induction labels generalizing col with
  | nil => exact absurd hk List.not_mem_nil
  | cons label labels ih =>
    rcases List.mem_cons.mp hk with rfl | hk
    · exact ⟨col, rfl⟩
    · exact ih hk

/-- The identifier of a key of a grid is that of some position. -/
theorem exists_id_gridKeys {row : Nat} {rows : List (List String)} {key : Key}
    (hk : key ∈ gridKeys row rows) : ∃ row' col, key.id = Key.idAt row' col := by
  induction rows generalizing row with
  | nil => exact absurd hk List.not_mem_nil
  | cons labels rest ih =>
    rcases List.mem_append.mp hk with hk | hk
    · exact ⟨row, exists_id_rowKeys hk⟩
    · exact ih hk

/-! ## Layouts read from rows -/

/-- **The keys of a layout are those of the rows** that it was read from: the check of the rows
takes none away and puts none in. -/
theorem keys_of_ofRows {rows : List (List String)} {layout : Layout}
    (h : ofRows rows = .ok layout) : layout.keys = gridKeys 0 rows := by
  match rows with
  | [] => exact nomatch h
  | [] :: _ => exact nomatch h
  | (label :: labels) :: rest =>
    unfold ofRows at h
    dsimp only at h
    -- rows that pass the check are read without it
    cases hc : checkRows (label :: labels).length 0 [] ((label :: labels) :: rest) with
    | error flaw =>
      rw [hc] at h
      exact nomatch h
    | ok _ =>
      rw [hc] at h
      rw [← Except.ok.inj h]

/-- The labels of a layout are those of its rows, one row after the other. -/
theorem labels_of_ofRows {rows : List (List String)} {layout : Layout}
    (h : ofRows rows = .ok layout) : layout.labels = rows.flatten := by
  rw [labels, keys_of_ofRows h, map_label_gridKeys]

/-- Every key has the identifier of a grid position. -/
theorem exists_id_eq_idAt {rows : List (List String)} {layout : Layout}
    (h : ofRows rows = .ok layout) {key : Key} (hk : key ∈ layout.keys) :
    ∃ row col, key.id = Key.idAt row col := by
  rw [keys_of_ofRows h] at hk
  exact exists_id_gridKeys hk

/-- To build a layout fails in other words than to read one, but for the same rows. -/
theorem build_eq_ok_iff {rows : List (List String)} {layout : Layout} :
    build rows = .ok layout ↔ ofRows rows = .ok layout := by
  rw [build]
  cases ofRows rows with
  | error flaw => simp [Except.mapError]
  | ok l => simp [Except.mapError]

/-! ## What labels ask for -/

/-- A text that is a label asks for its own append, any other text for nothing. -/
theorem map_action_findLabel? (layout : Layout) (text : String) :
    (layout.findLabel? text).map Key.action =
      if text ∈ layout.labels then some (.append text) else none := by
  rw [findLabel?]
  cases hf : layout.keys.find? (·.label == text) with
  | none =>
    have hnot : text ∉ layout.labels := by
      rw [labels, List.mem_map]
      rintro ⟨key, hk, hl⟩
      simpa [hl] using List.find?_eq_none.mp hf key hk
    rw [if_neg hnot, Option.map_none]
  | some key =>
    have hl : key.label = text := by simpa using List.find?_some hf
    have hm : text ∈ layout.labels := List.mem_map.mpr ⟨key, List.mem_of_find?_eq_some hf, hl⟩
    rw [if_pos hm, Option.map_some, Key.action, hl]

/-- The button of a key asks for the append of the label at its index. -/
theorem actionOf?_key (layout : Layout) (index : Nat) :
    layout.actionOf? (.key index) = layout.labels[index]?.map .append := by
  rw [actionOf?, key?, labels, List.getElem?_map, Option.map_map]
  rfl

/-- No key is found for a text exactly if it is no label. -/
theorem findLabel?_eq_none_iff {layout : Layout} {text : String} :
    layout.findLabel? text = none ↔ text ∉ layout.labels := by
  have h := map_action_findLabel? layout text
  rw [← Option.map_eq_none_iff (f := Key.action), h]
  split
  · next hm => simp [hm]
  · next hm => simp [hm]

end Layout

end AmountPad
