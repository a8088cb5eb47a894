import Mathlib
import AmountPad.Proofs.Frontend

/-!
# Keyboards that do the same

A page hears of a key by its name, holds it against the names of the controls and then against the
texts of its keys. A terminal hears of a code, takes a character for a label, and leaves on a `q` that
is none. Still the same keys do the same on both, whatever the layout is: a label may be a `q` or have
several characters, and even the name of a control may be a label, which then no keyboard reaches.

* `PlainKey` — the keys without a modifier, by name and by code;
* `Page.Bound.answers`, `Terminal.App.answers` — what a pad answers to keys that are pressed one after
  the other.

Main results:

* `Terminal.App.keyPress_plainKey` — a terminal runs what the name of the key asks for on its layout,
  except that a `q` which is no label leaves;
* `Page.Desk.Matches.actionFor?_keyDown` — so does a page, whatever has the focus on it;
* `keyboards_agree` — so both answer the same for all settings.
-/

namespace AmountPad

/-- A key of a keyboard that is pressed without a modifier. -/
inductive PlainKey where
  | char (c : Char)
  | backspace
  | escape
  | delete
  deriving DecidableEq, Repr

namespace PlainKey

/-- The name under which a page hears of the key. -/
def name : PlainKey → String
  | .char c => c.toString
  | .backspace => "Backspace"
  | .escape => "Escape"
  | .delete => "Delete"

/-- The code under which a terminal hears of it. -/
def code : PlainKey → Terminal.KeyCode
  | .char c => .char c
  | .backspace => .backspace
  | .escape => .escape
  | .delete => .delete

/-- The key as it is pressed on a terminal. -/
def press (key : PlainKey) : Terminal.KeyPress := { code := key.code }

/-- No control is named by a single character. -/
theorem ofKeyName?_char (c : Char) : Action.ofKeyName? c.toString = none := by
  have hlen : ∀ name : String, name.toList.length ≠ 1 → c.toString ≠ name := by
    intro name hname heq
    rw [← heq] at hname
    exact hname (by simp)
  unfold Action.ofKeyName?
  split
  · next h => exact absurd h (hlen _ (by decide))
  · next h => exact absurd h (hlen _ (by decide))
  · next h => exact absurd h (hlen _ (by decide))
  · rfl

end PlainKey

/-! ## Terminals -/

namespace Terminal.App

/-- What an app answers to keys that are pressed one after the other: whether the display changed,
and the content after it. -/
def answers : App → List PlainKey → List (Bool × String)
  | _, [] => []
  | app, key :: rest =>
    ((app.keyPress key.press).2, (app.keyPress key.press).1.amount.text) ::
      answers (app.keyPress key.press).1 rest

/-- A key runs what its name asks for on the layout. Only a `q` that is no label leaves instead. -/
theorem keyPress_plainKey (app : App) (key : PlainKey) : app.keyPress key.press =
    if key = .char 'q' ∧ "q" ∉ app.layout.labels then (app.leave, false)
    else app.applyAny (app.layout.actionOfKeyName? key.name) := by
  cases key with
  | char c =>
    show app.type c = _
    rw [type_eq_ite, Layout.actionOfKeyName?, PlainKey.name, PlainKey.ofKeyName?_char,
      Option.none_or]
    simp only [PlainKey.char.injEq]
  | backspace => rfl
  | escape => rfl
  | delete => rfl

/-- A `q` that is no label asks for nothing. -/
theorem actionOfKeyName?_q {layout : Layout} (h : "q" ∉ layout.labels) :
    layout.actionOfKeyName? (PlainKey.char 'q').name = none := by
  show (Action.ofKeyName? 'q'.toString).or ((layout.findLabel? "q").map Key.action) = none
  rw [PlainKey.ofKeyName?_char, Option.none_or, Layout.map_action_findLabel?, if_neg h]

end Terminal.App

/-! ## Pages -/

namespace Page

/-- What a pad on a page answers to keys that are pressed one after the other, each while a node or
nothing has the focus: whether an action ran, and the content after it. -/
def Bound.answers : Bound → List (PlainKey × Option Handle) → List (Bool × String)
  | _, [] => []
  | b, (key, focus) :: rest =>
    ((b.handle (.keyDown key.name focus)).2,
        (b.handle (.keyDown key.name focus)).1.pad.amount.text) ::
      answers (b.handle (.keyDown key.name focus)).1 rest

/-- No element of the page of a layout takes typed text. -/
theorem Document.isEditable_of_mem_elements {layout : Layout} {markup : Markup} {variant : Variant}
    {e : Element} (he : e ∈ (Document.ofKeypad layout markup variant).elements) :
    e.isEditable = false := by
  rw [Document.elements_ofKeypad, List.mem_append, List.mem_append] at he
  -- the frame, the keys and the controls are blocks, spans and buttons
  rcases he with (hframe | hkey) | hcontrol
  · have hall : ∀ e ∈ Document.frame markup, e.isEditable = false := by
      simp [Document.frame, Element.isEditable, Element.inputTags, Element.attribute?]
    exact hall e hframe
  · obtain ⟨key, -, rfl⟩ := List.mem_map.mp hkey
    simp [keyButton, Element.isEditable, Element.inputTags, Element.attribute?, List.lookup]
  · have hall : ∀ e ∈ Document.controlButtons markup variant, e.isEditable = false := by
      cases variant <;> simp [Document.controlButtons, controlButton, Element.isEditable,
        Element.inputTags, Element.attribute?]
    exact hall e hcontrol

/-- No node of the page takes typed text, also after an amount was written to the display. -/
theorem Document.ShowsKeypad.isEditable {layout : Layout} {markup : Markup} {variant : Variant}
    {text : String} {d : Document} (h : d.ShowsKeypad layout markup variant text) (x : Handle) :
    d.isEditable x = false := by
  rw [Document.isEditable, Document.element?_congr h,
    Document.any_element?_setText _ _ _ _ fun _ => rfl, Document.element?_eq]
  cases he : (Document.ofKeypad layout markup variant).elements[x]? with
  | none => rfl
  | some e => exact Document.isEditable_of_mem_elements (List.mem_of_getElem? he)

namespace Desk.Matches

variable {layout : Layout} {markup : Markup} {variant : Variant} {wired : Controls}
variable {desk : Desk} {app : Terminal.App}

theorem leave (h : Matches layout markup variant wired desk app) :
    Matches layout markup variant wired desk app.leave :=
  ⟨h.layout_eq, h.controls_eq, h.amount_eq, h.view_eq, h.clearId_eq, h.backspaceId_eq, h.page⟩

/-- Whatever has the focus on the page of a layout, a key asks for what its name asks for on the
layout. -/
theorem actionFor?_keyDown (h : Matches layout markup variant wired desk app) (name : String)
    (focus : Option Handle) :
    desk.bound.actionFor? (.keyDown name focus) = layout.actionOfKeyName? name := by
  have hfocus : focus.any desk.bound.document.isEditable = false := by
    cases focus with
    | none => rfl
    | some node => exact h.page.isEditable node
  -- the texts of the keys are the labels
  have hlabel : (∃ k ∈ (View.ofKeypad layout wired).keys, desk.bound.document.textBelow k = name) ↔
      name ∈ layout.labels := by
    rw [← h.page.map_textBelow_keys, List.mem_map]
    rfl
  show desk.bound.pad.view.keyAction? desk.bound.document name focus = _
  rw [View.keyAction?_eq h.page.wellFormed h.keys_lt, h.view_eq, View.request?, hfocus,
    if_neg Bool.false_ne_true, if_congr hlabel rfl rfl, Layout.actionOfKeyName?,
    Layout.map_action_findLabel?]

/-- A key that is pressed does the same on both sides, except that the terminal may leave. -/
theorem keyDown (h : Matches layout markup variant wired desk app) (key : PlainKey)
    (focus : Option Handle) :
    Frontend.SameStep (Matches layout markup variant wired)
      (desk.after (desk.bound.handle (.keyDown key.name focus))) (app.keyPress key.press) := by
  have hstep := h.handle (.keyDown key.name focus)
  rw [h.actionFor?_keyDown] at hstep
  rw [Terminal.App.keyPress_plainKey, h.layout_eq]
  split
  case isTrue hquit =>
    -- the page does nothing on a `q` that is no label
    obtain ⟨rfl, hq⟩ := hquit
    rw [Terminal.App.actionOfKeyName?_q hq] at hstep
    exact ⟨hstep.1, hstep.2.leave⟩
  case isFalse => exact hstep

/-- Keys that are pressed one after the other are answered alike. -/
theorem answers_eq (h : Matches layout markup variant wired desk app)
    (presses : List (PlainKey × Option Handle)) :
    desk.bound.answers presses = app.answers (presses.map Prod.fst) := by
  -- one press leads from pads that match to pads that match again
  induction presses generalizing desk app with
  | nil => rfl
  | cons press rest ih =>
    obtain ⟨key, focus⟩ := press
    obtain ⟨hflag, hnext⟩ := h.keyDown key focus
    have hflag' : (desk.bound.handle (.keyDown key.name focus)).2 = (app.keyPress key.press).2 :=
      hflag
    have hcontent : (app.keyPress key.press).1.amount =
        (desk.bound.handle (.keyDown key.name focus)).1.pad.amount := hnext.amount_eq
    have hrest : (desk.bound.handle (.keyDown key.name focus)).1.answers rest =
        (app.keyPress key.press).1.answers (rest.map Prod.fst) := ih hnext
    rw [Bound.answers, List.map_cons, Terminal.App.answers, hflag', hcontent, hrest]

end Desk.Matches

end Page

/-! ## Both keyboards -/

open Page Terminal

/-- **Keyboards agree.** For all settings with a layout, and identifiers that fit it, a pad can be
bound to the page with controls and there is an app over the same settings. Keys that are pressed
without a modifier are then answered alike by both, whatever has the focus on the page: no element of
it takes typed text. The terminal may have been asked to leave in between. -/
theorem keyboards_agree {s : Settings} {layout : Layout} (hl : Layout.ofRows s.rows = .ok layout)
    (hm : s.markup.Fits layout) :
    ∃ bound app, Bound.attach (.ofKeypad layout s.markup .withControls) s = .ok bound ∧
      App.ofSettings s = .ok app ∧ (∀ node, bound.document.isEditable node = false) ∧
      ∀ presses, bound.answers presses = app.answers (presses.map Prod.fst) := by
  obtain ⟨desk, hdesk, hmatch⟩ := Desk.ofSettings_matches hl hm (.inl rfl)
  have happ : App.ofSettings s = .ok (App.start layout s.policy) :=
    App.ofSettings_eq_ok_iff.mpr ⟨layout, hl, rfl⟩
  rw [controlsOn_withControls] at hmatch
  -- a desk is a bound pad on the page with the identifiers of its controls
  have hattach : Bound.attach (.ofKeypad layout s.markup .withControls) s = .ok desk.bound := by
    rw [Desk.ofSettings, Layout.build_eq_ok_iff.mpr hl] at hdesk
    cases hb : Bound.attach (.ofKeypad layout s.markup .withControls) s with
    | error e =>
      simp only [bind, Except.bind, hb] at hdesk
      cases hdesk
    | ok bound =>
      simp only [bind, Except.bind, hb] at hdesk
      rw [← Except.ok.inj hdesk]
  exact ⟨desk.bound, _, hattach, happ, hmatch.page.isEditable, hmatch.answers_eq⟩

/-- A layout with a `q`, a label of two characters and a label that names a control. -/
def keyboardSettings : Settings := { rows := [["q", "Delete"], ["00", "1"]] }

/-- On its page the `q` is entered, the label of two characters cannot be typed, and the name of the
control clears. -/
theorem keyboards_agree_q :
    ∃ layout bound, Layout.ofRows keyboardSettings.rows = .ok layout ∧
      Bound.attach (.ofKeypad layout keyboardSettings.markup .withControls) keyboardSettings =
        .ok bound ∧
      bound.answers [(.char 'q', none), (.char '0', some 3), (.char '1', some 99),
        (.backspace, none), (.delete, some 0)] =
        [(true, "q"), (false, "q"), (true, "q1"), (true, "q"), (true, "")] := by
  have hl : Layout.ofRows keyboardSettings.rows =
      .ok ⟨Layout.gridKeys 0 keyboardSettings.rows, 2, 2⟩ := rfl
  have hm : keyboardSettings.markup.Fits ⟨Layout.gridKeys 0 keyboardSettings.rows, 2, 2⟩ :=
    Layout.default_markup_fits hl
  obtain ⟨bound, app, hattach, happ, -, hanswers⟩ := keyboards_agree hl hm
  obtain rfl := Except.ok.inj happ
  refine ⟨_, bound, hl, hattach, ?_⟩
  rw [hanswers]
  rfl

end AmountPad
