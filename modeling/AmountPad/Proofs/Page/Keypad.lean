import Mathlib
import AmountPad.Proofs.Layout
import AmountPad.Proofs.Page.Table
import AmountPad.Proofs.Page.View

/-!
# The page of a keypad

The page that shows a layout is built from top to bottom: body, panel, display, grid, the keys, the
controls. Four nodes stand in front of the keys, so that a key has its node by its index, and a
control by the number of keys.

* `Markup.Fits` — the identifiers of a markup do not get in each other's way on the page of a
  layout;
* `View.ofKeypad` — the view of such a page;
* `Document.ShowsKeypad` — a document is such a page, with some text in its display.

Main results:

* `Document.elements_ofKeypad`, `Document.children_ofKeypad` — what the page consists of;
* `Document.order_ofKeypad` — its document order is the order of the table;
* `Layout.default_markup_fits` — the default identifiers fit every layout;
* `View.resolve_ofKeypad` — the view that is resolved on it;
* `Document.ShowsKeypad.map_textBelow_keys` — the keys show their labels.
-/

namespace AmountPad

namespace Page

namespace Document

/-! ## The page -/

variable (layout : Layout) (markup : Markup) (variant : Variant)

/-- The nodes in front of the keys: body, panel, display and grid. -/
def frame (markup : Markup) : List Element :=
  [{ tag := "body" }, { id := "amount-panel" },
    { tag := "span", id := markup.displayId, classes := ["display"] }, { id := "keypad-grid" }]

/-- The page has its frame, then a button for each key in their order, then the controls of its
variant. -/
theorem elements_ofKeypad : (ofKeypad layout markup variant).elements =
    frame markup ++ layout.keys.map (keyButton markup) ++ controlButtons markup variant := by
  simp only [ofKeypad, elements_appendAll]
  rfl

/-- The page has as many nodes as frame, keys and controls together. -/
theorem size_ofKeypad : (ofKeypad layout markup variant).size =
    4 + layout.keyCount + (controlButtons markup variant).length := by
  rw [← length_elements, elements_ofKeypad, List.length_append, List.length_append,
    List.length_map]
  rfl

/-- The page is built by adding elements to a blank document. -/
theorem reachable_ofKeypad : (ofKeypad layout markup variant).Reachable := by
  have hframe := Reachable.blank.foldl
    [.append root { id := "amount-panel" },
      .append 1 { tag := "span", id := markup.displayId, classes := ["display"] },
      .append root { id := "keypad-grid" }]
  exact (hframe.appendAll 3 _).appendAll root _

/-- The panel and the grid stand below the body, the display in the panel, the keys in the grid,
and the controls below the body again. -/
theorem children_ofKeypad (x : Nat) : (ofKeypad layout markup variant).children x =
    if x = 0 then
      [1, 3] ++ List.range' (4 + layout.keyCount) (controlButtons markup variant).length
    else if x = 1 then [2]
    else if x = 3 then List.range' 4 layout.keyCount
    else [] := by
  -- the frame, before there are keys
  let d : Document := (((({} : Document).append root { id := "amount-panel" }).append 1
    { tag := "span", id := markup.displayId, classes := ["display"] }).append root
    { id := "keypad-grid" })
  have hsize : d.size = 4 := rfl
  have hframe : ∀ x, d.children x = if x = 0 then [1, 3] else if x = 1 then [2] else [] := by
    intro x
    match x with
    | 0 => rfl
    | 1 => rfl
    | 2 => rfl
    | 3 => rfl
    | n + 4 =>
      rw [children_of_size_le (by rw [hsize]; omega)]
      simp
  have hpage : ofKeypad layout markup variant =
      (d.appendAll 3 (layout.keys.map (keyButton markup))).appendAll root
        (controlButtons markup variant) := rfl
  have hkeys : (d.appendAll 3 (layout.keys.map (keyButton markup))).size =
      4 + layout.keyCount := by
    rw [size_appendAll, hsize, List.length_map, Layout.keyCount]
  rw [hpage, children_appendAll (by rw [hkeys, root]; omega), hkeys,
    children_appendAll (by rw [hsize]; omega), hsize, hframe, List.length_map]
  by_cases h0 : x = 0
  · simp [h0, root]
  by_cases h1 : x = 1
  · simp [h1, root]
  by_cases h3 : x = 3
  · simp [h3, root, Layout.keyCount]
  · simp [h0, h1, h3, root]

/-- Keys and controls have no children. -/
theorem children_ofKeypad_of_four_le {x : Nat} (hx : 4 ≤ x) :
    (ofKeypad layout markup variant).children x = [] := by
  rw [children_ofKeypad, if_neg (by omega), if_neg (by omega), if_neg (by omega)]

/-- The page is built from top to bottom: its document order is the order of the table. -/
theorem order_ofKeypad : (ofKeypad layout markup variant).order =
    List.range (ofKeypad layout markup variant).size := by
  have hd := (reachable_ofKeypad layout markup variant).wellFormed
  -- keys and controls are leaves, so that only panel and grid hold others
  have hleaf : ∀ start len, 4 ≤ start → ∀ h ∈ List.range' start len,
      (ofKeypad layout markup variant).children h = [] := fun start len hs h hh =>
    children_ofKeypad_of_four_le layout markup variant
      (Nat.le_trans hs (List.mem_range'_1.mp hh).1)
  have hpanel : (ofKeypad layout markup variant).preorder 1 = [1, 2] := by
    rw [preorder_eq hd, children_ofKeypad, if_neg (by decide), if_pos rfl,
      flatMap_preorder_leaves hd]
    intro h hh
    rw [List.mem_singleton.mp hh, children_ofKeypad]
    rfl
  have hgrid : (ofKeypad layout markup variant).preorder 3 =
      3 :: List.range' 4 layout.keyCount := by
    rw [preorder_eq hd, children_ofKeypad, if_neg (by decide), if_neg (by decide), if_pos rfl,
      flatMap_preorder_leaves hd (hleaf 4 _ (Nat.le_refl 4))]
  rw [order, orderFrom_eq_preorder hd, preorder_eq hd, root, children_ofKeypad, if_pos rfl,
    List.flatMap_append, flatMap_preorder_leaves hd (hleaf _ _ (Nat.le_add_right 4 _)),
    List.flatMap_cons, List.flatMap_cons, List.flatMap_nil, hpanel, hgrid, size_ofKeypad,
    List.range_eq_range', ← List.range'_append_1, Nat.zero_add, ← List.range'_append_1]
  simp [List.range'_succ]

end Document

end Page

/-! ## Identifiers that fit a page -/

/-- The identifiers by which a markup finds the display and the controls. -/
def Markup.ids (markup : Markup) : List String :=
  [markup.displayId, markup.clearId, markup.backspaceId]

/-- The identifier by which a markup finds a control. -/
def Markup.controlId (markup : Markup) : Control → String
  | .clear => markup.clearId
  | .backspace => markup.backspaceId

/-- Identifiers that do not get in each other's way on the page of a layout. -/
structure Markup.Fits (markup : Markup) (layout : Layout) : Prop where
  nonempty : ∀ id ∈ markup.ids, id ≠ ""
  nodup : markup.ids.Nodup
  not_panel : ∀ id ∈ markup.ids, id ≠ "amount-panel" ∧ id ≠ "keypad-grid"
  not_key : ∀ id ∈ markup.ids, ∀ key ∈ layout.keys, id ≠ key.id
  class_free : markup.keyClass ≠ "display" ∧ markup.keyClass ≠ "control"

theorem Markup.controlId_mem_ids (markup : Markup) (control : Control) :
    markup.controlId control ∈ markup.ids := by
  cases control <;> simp [controlId, ids]

namespace Markup.Fits

variable {layout : Layout} {markup : Markup} (hm : markup.Fits layout)
include hm

theorem displayId_ne (control : Control) : markup.displayId ≠ markup.controlId control := by
  have hnodup := hm.nodup
  simp only [ids, List.nodup_cons, List.mem_cons, List.not_mem_nil, or_false, not_or] at hnodup
  cases control with
  | clear => exact hnodup.1.1
  | backspace => exact hnodup.1.2

theorem clearId_ne_backspaceId : markup.clearId ≠ markup.backspaceId := by
  have hnodup := hm.nodup
  simp only [ids, List.nodup_cons, List.mem_cons, List.not_mem_nil, or_false, not_or] at hnodup
  exact hnodup.2.1

end Markup.Fits

/-- The identifier of a grid position starts like the word for a key. -/
theorem Key.head_idAt (row col : Nat) : (Key.idAt row col).toList.head? = some 'k' := by
  simp [Key.idAt]

/-- The default identifiers fit every layout. -/
theorem Layout.default_markup_fits {rows : List (List String)} {layout : Layout}
    (h : Layout.ofRows rows = .ok layout) : Markup.Fits {} layout where
  nonempty := by decide
  nodup := by decide
  not_panel := by decide
  not_key := by
    have hhead : ∀ id ∈ Markup.ids {}, id.toList.head? ≠ some 'k' := by decide
    intro id hid key hk heq
    obtain ⟨row, col, hkey⟩ := Layout.exists_id_eq_idAt h hk
    refine hhead id hid ?_
    rw [heq, hkey, Key.head_idAt]
  class_free := by decide

namespace Page

/-! ## Lookups on the page -/

/-- The node of a control on a page that has controls. -/
def controlNode (layout : Layout) : Control → Nat
  | .clear => 4 + layout.keyCount
  | .backspace => 5 + layout.keyCount

namespace Document

/-- The display is found where it stands, unless it shares its identifier with the panel, which
comes before it. -/
theorem byId?_displayId (layout : Layout) {markup : Markup} (hne : markup.displayId ≠ "")
    (variant : Variant) : (ofKeypad layout markup variant).byId? markup.displayId =
      some (if markup.displayId = "amount-panel" then 1 else 2) := by
  rw [byId?_eq_findIdx? (order_ofKeypad layout markup variant) hne, elements_ofKeypad,
    List.append_assoc, List.findIdx?_append]
  have hframe : (frame markup).findIdx? (·.id == markup.displayId) =
      some (if markup.displayId = "amount-panel" then 1 else 2) := by
    by_cases hpanel : markup.displayId = "amount-panel"
    · simp [frame, List.findIdx?_cons, hpanel]
    · simp [frame, List.findIdx?_cons, Ne.symm hne, Ne.symm hpanel, hpanel]
  rw [hframe]
  rfl

variable {layout : Layout} {markup : Markup} (hm : markup.Fits layout)
include hm

/-- By its identifier the display is found at its node. -/
theorem byId?_display (variant : Variant) :
    (ofKeypad layout markup variant).byId? markup.displayId = some 2 := by
  have hid : markup.displayId ∈ markup.ids := by simp [Markup.ids]
  rw [byId?_displayId layout (hm.nonempty _ hid), if_neg (hm.not_panel _ hid).1]

/-- The identifier of a control is found among the controls, if there are any. -/
theorem byId?_controlId (control : Control) (variant : Variant) :
    (ofKeypad layout markup variant).byId? (markup.controlId control) =
      ((controlButtons markup variant).findIdx? (·.id == markup.controlId control)).map
        (· + (4 + layout.keyCount)) := by
  have hids := markup.controlId_mem_ids control
  have hne := hm.nonempty _ hids
  have hpanel := hm.not_panel _ hids
  have hdisplay := hm.displayId_ne control
  have hframe : (frame markup).findIdx? (·.id == markup.controlId control) = none := by
    simp [frame, List.findIdx?_cons, Ne.symm hne, Ne.symm hpanel.1, Ne.symm hpanel.2, hdisplay]
  have hkeys : (layout.keys.map (keyButton markup)).findIdx?
      (·.id == markup.controlId control) = none := by
    rw [List.findIdx?_eq_none_iff]
    intro e he
    obtain ⟨key, hk, rfl⟩ := List.mem_map.mp he
    simpa [keyButton] using Ne.symm (hm.not_key _ hids key hk)
  -- neither the frame nor the keys have it, so that its place is counted behind them
  rw [byId?_eq_findIdx? (order_ofKeypad layout markup variant) hne, elements_ofKeypad,
    List.findIdx?_append, List.findIdx?_append, hframe, hkeys, List.length_append,
    List.length_map]
  rfl

/-- On a page with controls, each is found at its node. -/
theorem byId?_controlId_withControls (control : Control) :
    (ofKeypad layout markup .withControls).byId? (markup.controlId control) =
      some (controlNode layout control) := by
  rw [byId?_controlId hm]
  cases control with
  | clear => simp [controlButtons, controlButton, List.findIdx?_cons, Markup.controlId, controlNode]
  | backspace =>
    simp [controlButtons, controlButton, List.findIdx?_cons, Markup.controlId, controlNode,
      hm.clearId_ne_backspaceId]
    omega

/-- On a page without controls, none is found. -/
theorem byId?_controlId_keysOnly (control : Control) :
    (ofKeypad layout markup .keysOnly).byId? (markup.controlId control) = none := by
  rw [byId?_controlId hm]
  rfl

/-- By their class the keys are found, all of them and nothing else, in the order of the layout. -/
theorem byClass_keyClass (variant : Variant) :
    (ofKeypad layout markup variant).byClass markup.keyClass =
      List.range' 4 layout.keyCount := by
  -- the keys stand side by side, and neither frame nor controls have their class
  have hkeys : (ofKeypad layout markup variant).byClass markup.keyClass =
      List.range' (frame markup).length (layout.keys.map (keyButton markup)).length := by
    refine byClass_eq_range' (order_ofKeypad layout markup variant)
      (elements_ofKeypad layout markup variant) ?before ?found ?after
    case before =>
      simp [frame, Element.hasClass, hm.class_free.1]
    case found =>
      intro e he
      obtain ⟨key, -, rfl⟩ := List.mem_map.mp he
      simp [keyButton, Element.hasClass]
    case after =>
      cases variant <;>
        simp [controlButtons, controlButton, Element.hasClass, hm.class_free.2]
  rw [hkeys, List.length_map]
  rfl

end Document

/-! ## The view of the page -/

/-- The controls that a page and a policy leave to a pad. -/
def controlsOn : Variant → Policy → Controls
  | .keysOnly, _ => .none
  | .withControls, .disabled => .none
  | .withControls, _ => .all

/-- The view of the page of a layout. -/
def View.ofKeypad (layout : Layout) (wired : Controls) : View where
  keys := List.range' 4 layout.keyCount
  display := 2
  clear := if wired.clear then some (4 + layout.keyCount) else none
  backspace := if wired.backspace then some (5 + layout.keyCount) else none

/-- The controls of the view are those that were wired. -/
theorem View.controls_ofKeypad (layout : Layout) (wired : Controls) :
    (View.ofKeypad layout wired).controls = wired := by
  obtain ⟨clear, backspace⟩ := wired
  cases clear <;> cases backspace <;> rfl

/-- A click on a key asks for the text that the key shows. -/
theorem View.request?_key {layout : Layout} {wired : Controls} {d : Document} {k : Nat}
    (hk : k ∈ (View.ofKeypad layout wired).keys) :
    (View.ofKeypad layout wired).request? d (.click k) = some (.append (d.textBelow k)) := by
  have hlt : k < 4 + layout.keyCount := (List.mem_range'_1.mp hk).2
  have hclear : (View.ofKeypad layout wired).clear ≠ some k := by
    simp [View.ofKeypad, Nat.ne_of_gt hlt]
  have hback : (View.ofKeypad layout wired).backspace ≠ some k := by
    have hne : 5 + layout.keyCount ≠ k := by omega
    simp [View.ofKeypad, hne]
  rw [View.request?, if_neg hclear, if_neg hback, if_pos hk]

/-- A click on a control asks for its action if the control is wired, and else for nothing. -/
theorem View.request?_control (layout : Layout) (wired : Controls) (d : Document)
    (control : Control) :
    (View.ofKeypad layout wired).request? d (.click (controlNode layout control)) =
      if wired.permits (.ofControl control) then some (.ofControl control) else none := by
  have hnot : controlNode layout control ∉ (View.ofKeypad layout wired).keys := by
    intro hm
    have hlt := (List.mem_range'_1.mp hm).2
    cases control <;> simp only [controlNode] at hlt <;> omega
  rw [View.request?, if_neg hnot]
  cases control with
  | clear =>
    cases hw : wired.clear <;>
      simp [View.ofKeypad, controlNode, Controls.permits, Action.ofControl, hw]
  | backspace =>
    cases hw : wired.backspace <;>
      simp [View.ofKeypad, controlNode, Controls.permits, Action.ofControl, hw]

/-- A page with all that is asked for resolves to its view. -/
theorem View.resolve_ofKeypad {layout : Layout} {s : Settings} (hm : s.markup.Fits layout)
    {variant : Variant} (hv : variant = .withControls ∨ s.policy ≠ .required) :
    View.resolve (Document.ofKeypad layout s.markup variant) s =
      .ok (View.ofKeypad layout (controlsOn variant s.policy)) := by
  rw [View.resolve_eq_ok_iff]
  refine ⟨Document.byId?_display hm variant, ?_, (Document.byClass_keyClass hm variant).symm⟩
  rw [View.resolveControls]
  cases variant with
  | keysOnly =>
    -- neither control is found, which only matters where they are required
    have hclear : (Document.ofKeypad layout s.markup .keysOnly).byId? s.markup.clearId = none :=
      Document.byId?_controlId_keysOnly hm .clear
    have hback : (Document.ofKeypad layout s.markup .keysOnly).byId? s.markup.backspaceId = none :=
      Document.byId?_controlId_keysOnly hm .backspace
    cases hp : s.policy with
    | disabled => rfl
    | optional => simp [hclear, hback, controlsOn, View.ofKeypad, Controls.none]
    | required => simp [hp] at hv
  | withControls =>
    -- both controls are found, and the policy says whether they are looked for
    have hclear : (Document.ofKeypad layout s.markup .withControls).byId? s.markup.clearId =
        some (4 + layout.keyCount) := Document.byId?_controlId_withControls hm .clear
    have hback : (Document.ofKeypad layout s.markup .withControls).byId? s.markup.backspaceId =
        some (5 + layout.keyCount) := Document.byId?_controlId_withControls hm .backspace
    cases hp : s.policy with
    | disabled => rfl
    | optional => simp [hclear, hback, controlsOn, View.ofKeypad, Controls.all]
    | required =>
      simp [View.requireControl, hclear, hback, controlsOn, View.ofKeypad, Controls.all]
      rfl

/-! ## The page with an amount in its display -/

/-- A document that shows a layout, with a text in its display. Its history may be any. -/
def Document.ShowsKeypad (layout : Layout) (markup : Markup) (variant : Variant) (text : String)
    (d : Document) : Prop :=
  d.nodes = ((Document.ofKeypad layout markup variant).setText 2 text).nodes

namespace Document.ShowsKeypad

variable {layout : Layout} {markup : Markup} {variant : Variant} {text : String} {d : Document}
variable (h : d.ShowsKeypad layout markup variant text)
include h

theorem size_eq : d.size = (ofKeypad layout markup variant).size := by
  rw [size_congr h, size_setText]

theorem children_eq (x : Handle) : d.children x = (ofKeypad layout markup variant).children x := by
  rw [children_congr h, children_setText]

theorem wellFormed : d.WellFormed :=
  (reachable_ofKeypad layout markup variant).wellFormed.of_children_eq h.size_eq h.children_eq

theorem byId?_eq (id : String) : d.byId? id = (ofKeypad layout markup variant).byId? id := by
  rw [byId?_congr h, byId?_setText]

/-- The display shows its text. -/
theorem text?_display : d.text? 2 = some text := by
  rw [text?_congr h]
  refine text?_setText_self ?_ text
  rw [size_ofKeypad]
  omega

/-- Another text in the display makes it a document that shows that text. -/
theorem setText (text' : String) : (d.setText 2 text').ShowsKeypad layout markup variant text' := by
  rw [ShowsKeypad, Document.setText, edit, h, Document.setText, edit, List.modify_modify_eq]
  rfl

/-- The keys show their labels. -/
theorem map_textBelow_keys : (List.range' 4 layout.keyCount).map d.textBelow = layout.labels := by
  refine List.ext_getElem (by simp [Layout.labels, Layout.keyCount]) fun i h1 h2 => ?_
  have hi : i < layout.keys.length := by simpa [Layout.keyCount] using h1
  -- a key has no children, and shows its own text
  have hchildren : d.children (4 + i) = [] := by
    rw [h.children_eq]
    exact children_ofKeypad_of_four_le layout markup variant (Nat.le_add_right 4 i)
  have hkey : (frame markup ++ layout.keys.map (keyButton markup) ++
      controlButtons markup variant)[4 + i]? = some (keyButton markup layout.keys[i]) := by
    rw [List.append_assoc, List.getElem?_append_right (Nat.le_add_right 4 i),
      List.getElem?_append_left (by simpa [frame] using hi)]
    simp [frame, hi]
  have htext : d.text? (4 + i) = some layout.keys[i].label := by
    have hne : (4 + i : Nat) ≠ 2 := by omega
    rw [text?_congr h, text?_setText_of_ne hne, text?, element?_eq, elements_ofKeypad, hkey]
    rfl
  rw [List.getElem_map, List.getElem_range', Nat.one_mul, textBelow_leaf h.wellFormed hchildren,
    htext]
  simp [Layout.labels]

end Document.ShowsKeypad

end Page

end AmountPad
