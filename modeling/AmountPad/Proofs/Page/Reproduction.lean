import Mathlib
import AmountPad.Proofs.Layout.Lookup
import AmountPad.Proofs.Page.Keypad
import AmountPad.Proofs.Page.Mirror

/-!
# The page of a layout is the layout again

A layout lists its keys; its page shows them as nodes of a tree, which a pad finds by a class, by
their identifiers and by the texts on them. With identifiers that fit, both tell the same: each key
of the layout has one node, in the same order, that stands for it whichever way it is reached, and
the keyboard means the same to both. The amount that comes to stand in the display changes nothing
of this.

* `View.Reproduces` — a view tells on a document what a layout tells;
* `Bound.OnKeypad` — a pad is bound to the page of a layout.

Main results:

* `Document.byId?_key` — the node of a key is found by the identifier of the key;
* `Document.ShowsKeypad.reproduces` — the view of a page tells what the layout tells;
* `Bound.OnKeypad.play` — no move of a user takes the pad off its page;
* `page_reproduces_layout` — all of it for every layout and all identifiers that fit.
-/

namespace AmountPad

namespace Page

/-! ## Nodes of keys -/

/-- The node of a key is found by the identifier of the key. -/
theorem Document.byId?_key {layout : Layout} (hg : layout.IsGrid) {markup : Markup}
    (hm : markup.Fits layout) (variant : Variant) {i : Nat} {key : Key}
    (hk : layout.key? i = some key) :
    (ofKeypad layout markup variant).byId? key.id = some (4 + i) := by
  obtain ⟨hi, hget⟩ := List.getElem?_eq_some_iff.mp hk
  have hmem : key ∈ layout.keys := List.mem_of_getElem? hk
  -- the identifier starts like no other of the frame
  have hhead : key.id.toList.take 4 = ['k', 'e', 'y', '-'] := by
    rw [hg.key?_eq] at hk
    obtain ⟨label, -, rfl⟩ := Option.map_eq_some_iff.mp hk
    simp [Key.ofLabel, Key.idAt]
  have hother : ∀ id : String, id.toList.take 4 ≠ ['k', 'e', 'y', '-'] → id ≠ key.id := by
    rintro id hne rfl
    exact hne hhead
  have hempty : "" ≠ key.id := hother _ (by decide)
  have hframe : (frame markup).findIdx? (·.id == key.id) = none := by
    have hdisplay : markup.displayId ≠ key.id := hm.not_key _ (by simp [Markup.ids]) key hmem
    simp [frame, List.findIdx?_cons, hempty, hdisplay, hother "amount-panel" (by decide),
      hother "keypad-grid" (by decide)]
  have hkeys : (layout.keys.map (keyButton markup)).findIdx? (·.id == key.id) = some i := by
    rw [List.findIdx?_eq_some_iff_getElem]
    refine ⟨by simpa using hi, by simp [keyButton, hget], fun j hj => ?_⟩
    -- a key in front of it has another identifier
    have hjlt : j < layout.keys.length := Nat.lt_trans hj hi
    have hne : layout.keys[j].id ≠ key.id := fun h =>
      Nat.ne_of_lt hj (hg.eq_of_id_eq (List.getElem?_eq_getElem hjlt) hk h)
    simp [keyButton, hne]
  rw [byId?_eq_findIdx? (order_ofKeypad layout markup variant) (Ne.symm hempty), elements_ofKeypad,
    List.append_assoc, List.findIdx?_append, List.findIdx?_append, hframe, hkeys]
  simp [frame, Nat.add_comm]

/-! ## Views that tell what a layout tells -/

/-- A view tells on a document what a layout tells, with these controls. -/
structure View.Reproduces (layout : Layout) (wired : Controls) (d : Document) (v : View) :
    Prop where
  /-- There is one key for each key of the layout. -/
  length_keys : v.keys.length = layout.keyCount
  /-- It is the node with the identifier of that key, shows its label, and asks for its action. -/
  key_eq : ∀ i key, layout.key? i = some key → ∃ node, v.keys[i]? = some node ∧
    d.byId? key.id = some node ∧ d.innerText? node = some key.label ∧
    v.button? node = some (.key i) ∧ v.clickAction? d node = some key.action
  controls_eq : v.controls = wired
  /-- The keyboard means the same to both, where no field takes the key press. -/
  keyAction?_eq : ∀ name origin, origin.any d.isEditable = false →
    v.keyAction? d name origin = layout.actionOfKeyName? name

/-- The node of a key is the button with its index. -/
theorem View.button?_ofKeypad {layout : Layout} {wired : Controls} {i : Nat}
    (hi : i < layout.keyCount) : (View.ofKeypad layout wired).button? (4 + i) = some (.key i) := by
  have hclear : (View.ofKeypad layout wired).clear ≠ some (4 + i) := by
    have hne : 4 + layout.keyCount ≠ 4 + i := by omega
    simp [View.ofKeypad, Nat.ne_of_gt hi]
  have hback : (View.ofKeypad layout wired).backspace ≠ some (4 + i) := by
    have hne : 5 + layout.keyCount ≠ 4 + i := by omega
    simp [View.ofKeypad, hne]
  have hfind : (View.ofKeypad layout wired).keys.findIdx? (· == 4 + i) = some i := by
    rw [List.findIdx?_eq_some_iff_getElem]
    refine ⟨by simpa [View.ofKeypad] using hi, by simp [View.ofKeypad], fun j hj => ?_⟩
    simp [View.ofKeypad, Nat.ne_of_lt hj]
  rw [View.button?, if_neg hclear, if_neg hback, hfind]
  rfl

theorem Document.ShowsKeypad.keys_lt {layout : Layout} {markup : Markup} {variant : Variant}
    {text : String} {d : Document} (h : d.ShowsKeypad layout markup variant text)
    (wired : Controls) : ∀ k ∈ (View.ofKeypad layout wired).keys, k < d.size := by
  intro k hk
  rw [h.size_eq, size_ofKeypad]
  exact Nat.lt_of_lt_of_le (List.mem_range'_1.mp hk).2 (Nat.le_add_right _ _)

/-- On every page of a layout, whatever its display shows, the view tells what the layout tells. -/
theorem Document.ShowsKeypad.reproduces {layout : Layout} (hg : layout.IsGrid) {markup : Markup}
    (hm : markup.Fits layout) {variant : Variant} {text : String} {d : Document}
    (h : d.ShowsKeypad layout markup variant text) (wired : Controls) :
    (View.ofKeypad layout wired).Reproduces layout wired d where
  length_keys := by simp [View.ofKeypad]
  key_eq := by
    intro i key hk
    obtain ⟨hi, hget⟩ := List.getElem?_eq_some_iff.mp hk
    have hmem : 4 + i ∈ (View.ofKeypad layout wired).keys :=
      List.mem_range'_1.mpr ⟨by omega, by rw [Layout.keyCount]; omega⟩
    have htext : d.textBelow (4 + i) = key.label := by
      have hlabels := congrArg (·[i]?) h.map_textBelow_keys
      simpa [Layout.keyCount, Layout.labels, hi, hget] using hlabels
    refine ⟨4 + i, by simp [View.ofKeypad, Layout.keyCount, hi], ?_, ?_, View.button?_ofKeypad hi, ?_⟩
    · rw [h.byId?_eq, byId?_key hg hm variant hk]
    · rw [innerText?_eq h.wellFormed (h.keys_lt wired _ hmem), htext]
    · rw [View.clickAction?_eq h.wellFormed (h.keys_lt wired), View.request?_key hmem, htext, Key.action]
  controls_eq := View.controls_ofKeypad layout wired
  keyAction?_eq := by
    intro name origin horigin
    -- the texts of the keys are the labels of the layout
    have hlabel : (∃ k ∈ (View.ofKeypad layout wired).keys, d.textBelow k = name) ↔
        name ∈ layout.labels := by
      rw [← h.map_textBelow_keys, List.mem_map]
      rfl
    rw [View.keyAction?_eq h.wellFormed (h.keys_lt wired), View.request?, Layout.actionOfKeyName?,
      Layout.map_action_findLabel?]
    simp only [horigin, Bool.false_eq_true, if_false, hlabel]

/-! ## Pads bound to the page -/

/-- A pad is bound to the page of a layout. -/
structure Bound.OnKeypad (layout : Layout) (markup : Markup) (variant : Variant) (wired : Controls)
    (b : Bound) : Prop where
  view_eq : b.pad.view = .ofKeypad layout wired
  page : ∃ text, b.document.ShowsKeypad layout markup variant text

/-- Whether a move is one of a user or of the pad, and not of the page. -/
def Bound.Move.LeavesPage : Bound.Move → Prop
  | .edit _ => False
  | _ => True

namespace Bound.OnKeypad

variable {layout : Layout} {markup : Markup} {variant : Variant} {wired : Controls} {b : Bound}

/-- Writing an amount to the display leaves the pad on its page. -/
theorem sync (h : OnKeypad layout markup variant wired b) (amount : Amount) :
    OnKeypad layout markup variant wired
      (Bound.sync { b with pad := { b.pad with amount := amount } }) := by
  obtain ⟨text, hpage⟩ := h.page
  refine ⟨h.view_eq, amount.text, ?_⟩
  rw [Bound.sync, h.view_eq]
  exact hpage.setText amount.text

/-- Actions keep the pad on its page. -/
theorem run (h : OnKeypad layout markup variant wired b) (action : Action) :
    OnKeypad layout markup variant wired (b.run action).1 := by
  unfold Bound.run
  cases b.pad.amount.run? b.controls action with
  | none => exact h
  | some amount => exact h.sync amount

/-- Events keep the pad on its page. -/
theorem handle (h : OnKeypad layout markup variant wired b) (event : Event) :
    OnKeypad layout markup variant wired (b.handle event).1 := by
  -- what is recorded is no part of the page
  have hrecorded : OnKeypad layout markup variant wired
      { b with document := b.document.record event } := ⟨h.view_eq, h.page⟩
  unfold Bound.handle
  cases b.actionFor? event with
  | none => exact hrecorded
  | some action => exact hrecorded.run action

/-- Every move of a user keeps the pad on its page. -/
theorem move (h : OnKeypad layout markup variant wired b) {m : Move} (hm : m.LeavesPage) :
    OnKeypad layout markup variant wired (b.move m) := by
  rcases b.move_cases m with rfl | ⟨change, rfl⟩ | ⟨event, hevent⟩ | hsame
  · exact h.sync .empty
  · exact hm.elim
  · rw [hevent]
    exact h.handle event
  · rw [hsame]
    exact h

/-- No move of a user takes the pad off its page. -/
theorem play (h : OnKeypad layout markup variant wired b) {moves : List Move}
    (hm : ∀ m ∈ moves, m.LeavesPage) : OnKeypad layout markup variant wired (b.play moves) := by
  induction moves generalizing b with
  | nil => exact h
  | cons m rest ih =>
    exact ih (h.move (hm m List.mem_cons_self)) fun m' hm' => hm m' (List.mem_cons_of_mem _ hm')

end Bound.OnKeypad

/-! ## Every layout -/

/-- A new page shows nothing in its display. -/
theorem Document.showsKeypad_ofKeypad (layout : Layout) (markup : Markup) (variant : Variant) :
    (ofKeypad layout markup variant).ShowsKeypad layout markup variant "" := by
  have hdisplay : (ofKeypad layout markup variant).element? 2 =
      some { tag := "span", id := markup.displayId, classes := ["display"] } := by
    rw [element?_eq, elements_ofKeypad, List.append_assoc]
    rfl
  refine List.ext_getElem? fun x => ?_
  rw [setText, edit, List.getElem?_modify]
  split
  · next hx =>
    subst hx
    -- writing nothing over nothing
    rw [element?] at hdisplay
    obtain ⟨node, hnode, helement⟩ := Option.map_eq_some_iff.mp hdisplay
    rw [hnode]
    obtain ⟨element, children⟩ := node
    obtain rfl := helement
    rfl
  · simp

/-- The class of the keys is found at the same nodes, whatever the display shows. -/
theorem Document.ShowsKeypad.byClass_eq {layout : Layout} {markup : Markup} {variant : Variant}
    {text : String} {d : Document} (h : d.ShowsKeypad layout markup variant text) (name : String) :
    d.byClass name = (ofKeypad layout markup variant).byClass name := by
  have hclass : ∀ x, (d.element? x).any (·.hasClass name) =
      ((ofKeypad layout markup variant).element? x).any (·.hasClass name) := by
    intro x
    rw [element?_congr h]
    exact any_element?_setText _ 2 text x fun _ => rfl
  simp only [byClass, order, orderFrom_congr h.size_eq h.children_eq, hclass]

/-- On every page of a layout the same view is resolved, whatever the display shows. -/
theorem View.resolve_eq_of_showsKeypad {layout : Layout} {s : Settings} {variant : Variant}
    {text : String} {d : Document} (h : d.ShowsKeypad layout s.markup variant text) :
    View.resolve d s = View.resolve (Document.ofKeypad layout s.markup variant) s := by
  simp only [resolve, resolveControls, requireControl, h.byId?_eq, h.byClass_eq]

/-- A page without controls lacks the clear control when controls are required. -/
theorem View.resolve_keysOnly_required {layout : Layout} {s : Settings} (hm : s.markup.Fits layout)
    (hp : s.policy = .required) : View.resolve (Document.ofKeypad layout s.markup .keysOnly) s =
      .error (.missingControl .clear s.markup.clearId) := by
  have hclear : (Document.ofKeypad layout s.markup .keysOnly).byId? s.markup.clearId = none :=
    Document.byId?_controlId_keysOnly hm .clear
  rw [resolve, Document.byId?_display hm, resolveControls, hp]
  simp only [requireControl, hclear]
  rfl

/-- **The page of a layout is the layout again.** For every layout that can be read, and identifiers
that fit it, the page resolves to a view unless controls are required that it does not have. The
view tells what the layout tells, in the order of the rows, and its controls are those of the page
and the policy. A pad that is bound to the page goes on with this view, and so does everything that
is said of it, through all moves of a user. -/
theorem page_reproduces_layout {rows : List (List String)} {layout : Layout}
    (hl : Layout.ofRows rows = .ok layout) {s : Settings} (hm : s.markup.Fits layout)
    (variant : Variant) :
    let page := Document.ofKeypad layout s.markup variant
    (variant = .keysOnly ∧ s.policy = .required →
      View.resolve page s = .error (.missingControl .clear s.markup.clearId)) ∧
    (¬(variant = .keysOnly ∧ s.policy = .required) → ∃ v b,
      View.resolve page s = .ok v ∧ Bound.attach page s = .ok b ∧
      layout.labels = rows.flatten ∧ v.Reproduces layout (controlsOn variant s.policy) page ∧
      ∀ moves : List Bound.Move, (∀ m ∈ moves, m.LeavesPage) →
        let after := b.play moves
        after.pad.view = v ∧ View.resolve after.document s = .ok v ∧
          v.Reproduces layout (controlsOn variant s.policy) after.document) := by
  intro page
  have hg := Layout.isGrid_of_ofRows hl
  constructor
  · rintro ⟨rfl, hp⟩
    exact View.resolve_keysOnly_required hm hp
  · intro hv
    -- the fresh page resolves, and what is shown in the display changes nothing of that
    have hresolve : View.resolve page s = .ok (.ofKeypad layout (controlsOn variant s.policy)) := by
      refine View.resolve_ofKeypad hm ?_
      cases variant with
      | withControls => exact .inl rfl
      | keysOnly => exact .inr fun hp => hv ⟨rfl, hp⟩
    have hpage := Document.showsKeypad_ofKeypad layout s.markup variant
    refine ⟨_, Bound.sync ⟨page, { view := .ofKeypad layout (controlsOn variant s.policy) }⟩,
      hresolve, ?_, Layout.labels_of_ofRows hl, hpage.reproduces hg hm _, fun moves hmoves => ?_⟩
    · exact Bound.attach_eq_ok_iff.mpr ⟨_, hresolve, rfl⟩
    · have hstart : Bound.OnKeypad layout s.markup variant (controlsOn variant s.policy)
          (Bound.sync ⟨page, { view := .ofKeypad layout (controlsOn variant s.policy) }⟩) :=
        ⟨rfl, "", hpage.setText ""⟩
      -- after the moves it is the same page, with some text in the display
      obtain ⟨hview, text, hafter⟩ := hstart.play hmoves
      exact ⟨hview, (View.resolve_eq_of_showsKeypad hafter).trans hresolve,
        hafter.reproduces hg hm _⟩

/-- The default page after a key, a control and a look-up that finds nothing. -/
def busyMoves : List Bound.Move :=
  [.clickLabel "00", .pressKey "Backspace", .clickId "satoshis", .clickLabel "x"]

theorem page_reproduces_layout_satoshi :
    (∃ v b, View.resolve (Document.ofKeypad .satoshi {} .withControls) {} = .ok v ∧
      Bound.attach (Document.ofKeypad .satoshi {} .withControls) {} = .ok b ∧
      (b.play busyMoves).pad.view = v ∧
      v.Reproduces .satoshi .all (b.play busyMoves).document) ∧
    View.resolve (Document.ofKeypad .satoshi {} .keysOnly) { policy := .required } =
      .error (.missingControl .clear "clear") := by
  have hl : Layout.ofRows Layout.satoshiRows = .ok .satoshi := by rfl
  have hm : Markup.Fits {} .satoshi := Layout.default_markup_fits hl
  have hmoves : ∀ m ∈ busyMoves, m.LeavesPage := by
    simp [busyMoves, Bound.Move.LeavesPage]
  have hfull := page_reproduces_layout hl (s := {}) hm .withControls
  obtain ⟨v, b, hresolve, hattach, -, -, hplay⟩ := hfull.2 (by decide)
  obtain ⟨hview, -, hreproduces⟩ := hplay busyMoves hmoves
  have hbare := page_reproduces_layout hl (s := { policy := .required }) hm .keysOnly
  exact ⟨⟨v, b, hresolve, hattach, hview, hreproduces⟩, hbare.1 ⟨rfl, rfl⟩⟩

end Page

end AmountPad
