import Mathlib
import AmountPad.Frontend
import AmountPad.Proofs.Page.Keypad
import AmountPad.Proofs.Terminal.App
import AmountPad.Scenario

/-!
# Frontends that look the same

A pad on a page finds its keys and controls by class and identifier, reads labels from a tree and
writes the amount to a node. A terminal app looks all of this up in the layout. Still a user cannot
tell one from the other, whatever is pressed in whatever order.

* `Frontend.perform` — one operation of a user;
* `Frontend.transcript` — what a user sees of a list of operations;
* `Frontend.Simulation` — a relation of states that no operation leads out of;
* `Page.Desk.Matches` — a pad on the page of a layout and an app over that layout that hold the same
  amount.

Main results:

* `Frontend.Simulation.looksLike` — related states look the same to a user;
* `Frontend.Simulation.run_scenario` — scenarios go through on one if they do on the other;
* `Page.Desk.Matches.simulation` — pads on pages and apps simulate each other;
* `Frontend.page_looks_like_terminal` — so they look the same for all settings.
-/

namespace AmountPad

namespace Frontend

/-- What a user does at a frontend. -/
inductive Operation where
  | press (label : String)
  | use (control : Control)
  | reset
  deriving DecidableEq, Repr

variable {σ τ : Type} [Frontend σ] [Frontend τ]

/-- What a frontend shows. -/
def shown (s : σ) : String × Controls := (content s, controls s)

/-- The state after an operation, and its flag. A reset has none. -/
def perform (s : σ) : Operation → σ × Option Bool
  | .press label => ((press s label).1, some (press s label).2)
  | .use control => ((Scenario.useControl s control).1, some (Scenario.useControl s control).2)
  | .reset => (reset s, none)

/-- The flag of each operation, and what the frontend shows after it. -/
def transcript : σ → List Operation → List (Option Bool × String × Controls)
  | _, [] => []
  | s, op :: rest =>
    ((perform s op).2, shown (perform s op).1) :: transcript (perform s op).1 rest

/-- A user cannot tell two frontends apart: neither at the start nor after any operation. -/
def LooksLike (s : σ) (t : τ) : Prop :=
  shown s = shown t ∧ ∀ ops, transcript s ops = transcript t ops

/-! ## Simulations -/

/-- The same flag, and states that are related. -/
def SameStep (R : σ → τ → Prop) (x : σ × Bool) (y : τ × Bool) : Prop :=
  x.2 = y.2 ∧ R x.1 y.1

/-- A relation between the states of two frontends under which they show the same and which no
operation leads out of. -/
structure Simulation (R : σ → τ → Prop) : Prop where
  shown : ∀ {s t}, R s t → shown s = shown t
  press : ∀ {s t}, R s t → ∀ label, SameStep R (press s label) (press t label)
  use : ∀ {s t}, R s t → ∀ control,
    SameStep R (Scenario.useControl s control) (Scenario.useControl t control)
  reset : ∀ {s t}, R s t → R (reset s) (reset t)

namespace Simulation

variable {R : σ → τ → Prop} (hR : Simulation R)
include hR

/-- One operation has the same flag on both sides, and leads to related states. -/
theorem perform {s : σ} {t : τ} (h : R s t) (op : Operation) :
    (Frontend.perform s op).2 = (Frontend.perform t op).2 ∧
      R (Frontend.perform s op).1 (Frontend.perform t op).1 := by
  cases op with
  | press label =>
    obtain ⟨hflag, hstate⟩ := hR.press h label
    exact ⟨congrArg some hflag, hstate⟩
  | use control =>
    obtain ⟨hflag, hstate⟩ := hR.use h control
    exact ⟨congrArg some hflag, hstate⟩
  | reset => exact ⟨rfl, hR.reset h⟩

/-- Frontends that are related give the same answers to all operations. -/
theorem transcript_eq {s : σ} {t : τ} (h : R s t) (ops : List Operation) :
    transcript s ops = transcript t ops := by
  induction ops generalizing s t with
  | nil => rfl
  | cons op rest ih =>
    obtain ⟨hflag, hstate⟩ := hR.perform h op
    rw [transcript, transcript, hflag, hR.shown hstate, ih hstate]

/-- Related states look the same to a user. -/
theorem looksLike {s : σ} {t : τ} (h : R s t) : LooksLike s t :=
  ⟨hR.shown h, hR.transcript_eq h⟩

/-- One step of a scenario goes as expected on both sides or on neither. -/
theorem step_scenario {s : σ} {t : τ} (h : R s t) (x : ScenarioStep) :
    SameStep R (Scenario.step s x) (Scenario.step t x) := by
  have hshown := hR.shown h
  rw [Frontend.shown, Frontend.shown, Prod.mk.injEq] at hshown
  cases x with
  | reset => exact ⟨rfl, hR.reset h⟩
  | press label => exact ⟨rfl, (hR.press h label).2⟩
  | pressKey label => exact hR.press h label
  | use control runs =>
    obtain ⟨hflag, hstate⟩ := hR.use h control
    exact ⟨congrArg (· == runs) hflag, hstate⟩
  | shows content => exact ⟨congrArg (· == content) hshown.1, h⟩
  | wired controls => exact ⟨congrArg (· == controls) hshown.2, h⟩

/-- A scenario goes through on both sides or on neither, and stops at related states. -/
theorem run_scenario {s : σ} {t : τ} (h : R s t) (scenario : Scenario) :
    SameStep R (Scenario.run s scenario) (Scenario.run t scenario) := by
  induction scenario generalizing s t with
  | nil => exact ⟨rfl, h⟩
  | cons x rest ih =>
    obtain ⟨hflag, hstate⟩ := hR.step_scenario h x
    rw [Scenario.run, Scenario.run]
    -- both sides stop here, or both go on
    generalize Scenario.step s x = after at hflag hstate
    generalize Scenario.step t x = after' at hflag hstate
    obtain ⟨s', ok⟩ := after
    obtain ⟨t', ok'⟩ := after'
    cases ok with
    | true =>
      obtain rfl : true = ok' := hflag
      exact ih hstate
    | false =>
      obtain rfl : false = ok' := hflag
      exact ⟨rfl, hstate⟩

end Simulation

end Frontend

/-! ## Pads on pages and apps -/

namespace Page.Desk

/-- A pad on the page of a layout and an app over that layout, with the same controls and the same
amount. -/
structure Matches (layout : Layout) (markup : Markup) (variant : Variant) (wired : Controls)
    (desk : Desk) (app : Terminal.App) : Prop where
  layout_eq : app.layout = layout
  controls_eq : app.controls = wired
  amount_eq : app.amount = desk.bound.pad.amount
  view_eq : desk.bound.pad.view = View.ofKeypad layout wired
  clearId_eq : desk.clearId = markup.clearId
  backspaceId_eq : desk.backspaceId = markup.backspaceId
  page : desk.bound.document.ShowsKeypad layout markup variant desk.bound.pad.amount.text

namespace Matches

variable {layout : Layout} {markup : Markup} {variant : Variant} {wired : Controls}
variable {desk : Desk} {app : Terminal.App}

theorem controls_bound (h : Matches layout markup variant wired desk app) :
    desk.bound.controls = wired := by
  rw [Bound.controls, h.view_eq, View.controls_ofKeypad]

/-- A desk and an app that match show the same. -/
theorem shown (h : Matches layout markup variant wired desk app) :
    Frontend.shown desk = Frontend.shown app := by
  have hcontent : desk.content = app.amount.text := by
    rw [content, Bound.shown?, h.view_eq, View.ofKeypad, h.page.text?_display, h.amount_eq]
    rfl
  have hcontrols : desk.controls = app.controls := by
    rw [controls, h.controls_bound, h.controls_eq]
  exact Prod.ext hcontent hcontrols

/-- Writing an amount to the display leaves the page what it is. -/
theorem page_sync (h : Matches layout markup variant wired desk app) (amount : Amount) :
    (desk.bound.document.setText desk.bound.pad.view.display amount.text).ShowsKeypad layout
      markup variant amount.text := by
  have hdisplay : desk.bound.pad.view.display = 2 := by
    rw [h.view_eq]
    rfl
  rw [hdisplay]
  exact h.page.setText amount.text

/-- A desk and an app that match do so again after a reset of both. -/
theorem reset (h : Matches layout markup variant wired desk app) :
    Matches layout markup variant wired desk.reset app.reset where
  layout_eq := h.layout_eq
  controls_eq := h.controls_eq
  amount_eq := rfl
  view_eq := h.view_eq
  clearId_eq := h.clearId_eq
  backspaceId_eq := h.backspaceId_eq
  page := h.page_sync .empty

/-- The same action runs on both sides or is refused on both. -/
theorem run (h : Matches layout markup variant wired desk app) (action : Action) :
    Frontend.SameStep (Matches layout markup variant wired)
      (desk.after (desk.bound.run action)) (app.apply action) := by
  -- both sides ask the same of the same amount
  have hrun : desk.bound.pad.amount.run? desk.bound.controls action =
      app.amount.run? app.controls action := by
    rw [h.controls_bound, h.controls_eq, h.amount_eq]
  rw [Bound.run, hrun]
  cases hr : app.amount.run? app.controls action with
  | none =>
    rw [Terminal.App.apply_of_run?_eq_none hr]
    exact ⟨rfl, h⟩
  | some amount =>
    rw [Terminal.App.apply_of_run?_eq_some hr]
    exact ⟨rfl, h.layout_eq, h.controls_eq, rfl, h.view_eq, h.clearId_eq, h.backspaceId_eq,
      h.page_sync amount⟩

/-- An event does on the page what the action that it asks for does on the terminal. -/
theorem handle (h : Matches layout markup variant wired desk app) (event : Event) :
    Frontend.SameStep (Matches layout markup variant wired)
      (desk.after (desk.bound.handle event)) (app.applyAny (desk.bound.actionFor? event)) := by
  -- the history is no part of what is compared
  have hrecorded : Matches layout markup variant wired
      { desk with bound := { desk.bound with document := desk.bound.document.record event } }
      app := ⟨h.layout_eq, h.controls_eq, h.amount_eq, h.view_eq, h.clearId_eq, h.backspaceId_eq,
    h.page⟩
  rw [Bound.handle]
  cases desk.bound.actionFor? event with
  | none => exact ⟨rfl, hrecorded⟩
  | some action => exact hrecorded.run action

theorem keys_lt (h : Matches layout markup variant wired desk app) :
    ∀ k ∈ desk.bound.pad.view.keys, k < desk.bound.document.size := by
  intro k hk
  rw [h.view_eq] at hk
  rw [h.page.size_eq, Document.size_ofKeypad]
  exact Nat.lt_of_lt_of_le (List.mem_range'_1.mp hk).2 (Nat.le_add_right _ _)

/-- What a click asks for on the page. -/
theorem actionFor?_click (h : Matches layout markup variant wired desk app) (node : Nat) :
    desk.bound.actionFor? (.click node) =
      (View.ofKeypad layout wired).request? desk.bound.document (.click node) := by
  rw [Bound.actionFor?, View.clickAction?_eq h.page.wellFormed h.keys_lt, h.view_eq]

/-- A label is pressed where its key is, and it is found on both sides or on neither. -/
theorem press (h : Matches layout markup variant wired desk app) (label : String) :
    Frontend.SameStep (Matches layout markup variant wired) (desk.press label)
      (app.press label) := by
  have hlabels := h.page.map_textBelow_keys
  rw [Desk.press, Bound.clickLabel, View.keyShowing?_eq h.page.wellFormed h.keys_lt, h.view_eq,
    Terminal.App.press, h.layout_eq, Layout.map_action_findLabel?]
  -- the texts of the keys are the labels, so that both searches find or miss together
  cases hf : (View.ofKeypad layout wired).keys.find? (desk.bound.document.textBelow · == label) with
  | none =>
    have hnot : label ∉ layout.labels := by
      rw [← hlabels, List.mem_map]
      rintro ⟨k, hk, ht⟩
      simpa [ht] using List.find?_eq_none.mp hf k hk
    rw [if_neg hnot]
    exact ⟨rfl, h⟩
  | some k =>
    have hk : k ∈ (View.ofKeypad layout wired).keys := List.mem_of_find?_eq_some hf
    have ht : desk.bound.document.textBelow k = label := by simpa using List.find?_some hf
    have hm : label ∈ layout.labels := by
      rw [← hlabels, List.mem_map]
      exact ⟨k, hk, ht⟩
    have hclick := h.handle (.click k)
    rw [h.actionFor?_click, View.request?_key hk, ht] at hclick
    rw [if_pos hm]
    exact hclick

/-- A click on the button of a control runs the control if it is wired, on both sides. -/
theorem clickControl (h : Matches layout markup variant wired desk app) (control : Control) :
    Frontend.SameStep (Matches layout markup variant wired)
      (desk.after (desk.bound.click (controlNode layout control)))
      (app.click (.control control)) := by
  -- both sides go by the same table of wired controls
  have hclick := h.handle (.click (controlNode layout control))
  rw [h.actionFor?_click, View.request?_control] at hclick
  cases hp : wired.permits (.ofControl control) with
  | true =>
    rw [hp, if_pos rfl] at hclick
    exact hclick
  | false =>
    rw [hp, if_neg Bool.false_ne_true] at hclick
    have happ : app.click (.control control) = (app, false) :=
      Terminal.App.apply_of_not_permits (by rw [h.controls_eq, hp])
    rw [happ]
    exact hclick

/-- Without controls on the page a control does nothing, on both sides. -/
theorem missingControl (h : Matches layout markup variant .none desk app) {id : String}
    (hid : desk.bound.document.byId? id = none) (control : Control) :
    Frontend.SameStep (Matches layout markup variant .none)
      (desk.after (desk.bound.clickId id)) (app.click (.control control)) := by
  have hp : app.controls.permits (.ofControl control) = false := by
    rw [h.controls_eq]
    cases control <;> rfl
  have happ : app.click (.control control) = (app, false) :=
    Terminal.App.apply_of_not_permits hp
  rw [Bound.clickId, hid, happ]
  exact ⟨rfl, h⟩

theorem useControl_eq (h : Matches layout markup variant wired desk app) (control : Control) :
    Scenario.useControl desk control =
      desk.after (desk.bound.clickId (markup.controlId control)) := by
  cases control with
  | clear =>
    rw [Markup.controlId, ← h.clearId_eq]
    rfl
  | backspace =>
    rw [Markup.controlId, ← h.backspaceId_eq]
    rfl

/-- A control is used on both sides or refused on both. -/
theorem use (h : Matches layout markup variant wired desk app) (hm : markup.Fits layout)
    (hw : variant = .keysOnly → wired = .none) (control : Control) :
    Frontend.SameStep (Matches layout markup variant wired) (Scenario.useControl desk control)
      (Scenario.useControl app control) := by
  have happ : Scenario.useControl app control = app.click (.control control) := by
    cases control <;> rfl
  rw [h.useControl_eq, happ]
  cases variant with
  | keysOnly =>
    obtain rfl := hw rfl
    -- the page has no such button, and no control is wired on either side
    refine h.missingControl ?_ control
    rw [h.page.byId?_eq, Document.byId?_controlId_keysOnly hm]
  | withControls =>
    -- the button is found at its node, so that a click by identifier is a click on it
    have hid : desk.bound.document.byId? (markup.controlId control) =
        some (controlNode layout control) := by
      rw [h.page.byId?_eq, Document.byId?_controlId_withControls hm]
    rw [Bound.clickId, hid]
    exact h.clickControl control

/-- Pads on pages and apps simulate each other. -/
theorem simulation (hm : markup.Fits layout) (hw : variant = .keysOnly → wired = .none) :
    Frontend.Simulation (Matches layout markup variant wired) where
  shown := shown
  press := press
  use := fun h => h.use hm hw
  reset := reset

end Matches

/-- A pad that was built over settings holds what an app over the layout holds at its start. -/
theorem ofSettings_matches {s : Settings} {layout : Layout}
    (hl : Layout.ofRows s.rows = .ok layout) (hm : s.markup.Fits layout) {variant : Variant}
    (hv : variant = .withControls ∨ s.policy ≠ .required) :
    ∃ desk, Desk.ofSettings variant s = .ok desk ∧
      Matches layout s.markup variant (controlsOn variant s.policy) desk
        { layout := layout, controls := controlsOn variant s.policy } := by
  have hview := View.resolve_ofKeypad hm hv
  refine ⟨⟨Bound.sync ⟨.ofKeypad layout s.markup variant,
    { view := .ofKeypad layout (controlsOn variant s.policy) }⟩,
    s.markup.clearId, s.markup.backspaceId⟩, ?_, rfl, rfl, rfl, rfl, rfl, rfl, rfl⟩
  rw [Desk.ofSettings, Layout.build_eq_ok_iff.mpr hl]
  simp only [bind, Except.bind, Bound.attach, hview]
  rfl

end Page.Desk

/-- The controls of a page that has them are those of the terminal. -/
theorem Page.controlsOn_withControls (policy : Policy) :
    Page.controlsOn .withControls policy = Terminal.App.controlsUnder policy := by
  cases policy <;> rfl

namespace Frontend

open Page Terminal

/-- **Pages and terminals look the same.** For all settings with a layout, and identifiers that fit
it, a pad can be bound to the page with controls, and an app over the same settings looks like it.
A pad on a page without controls, unless these are required, looks like an app without controls. The
default identifiers fit every layout. -/
theorem page_looks_like_terminal {s : Settings} {layout : Layout}
    (hl : Layout.ofRows s.rows = .ok layout) (hm : s.markup.Fits layout) :
    (∃ desk app, Desk.ofSettings .withControls s = .ok desk ∧ App.ofSettings s = .ok app ∧
      LooksLike desk app) ∧
    (s.policy ≠ .required → ∃ desk, Desk.ofSettings .keysOnly s = .ok desk ∧
      LooksLike desk ({ layout := layout, controls := .none } : App)) ∧
    Markup.Fits {} layout := by
  refine ⟨?controls, ?keys, Layout.default_markup_fits hl⟩
  case controls =>
    obtain ⟨desk, hdesk, hmatch⟩ := Desk.ofSettings_matches hl hm (.inl rfl)
    have happ := App.ofSettings_eq_ok_iff.mpr ⟨layout, hl, rfl⟩
    rw [controlsOn_withControls] at hmatch
    exact ⟨desk, _, hdesk, happ, (Desk.Matches.simulation hm (by simp)).looksLike hmatch⟩
  case keys =>
    intro hp
    -- without controls the terminal has to match a page on which none is found
    have hbuilt := @Desk.ofSettings_matches s layout hl hm .keysOnly (.inr hp)
    obtain ⟨desk, hdesk, hmatch⟩ := hbuilt
    exact ⟨desk, hdesk, (Desk.Matches.simulation hm fun _ => rfl).looksLike hmatch⟩

/-- What a user sees of some operations on both pages of the default settings. -/
theorem page_looks_like_terminal_satoshi :
    (∃ desk, Desk.ofSettings .withControls {} = .ok desk ∧
      transcript desk [.press "00", .press "x", .use .backspace, .reset] =
        [(some true, "00", .all), (some false, "00", .all), (some true, "0", .all),
          (none, "", .all)]) ∧
    ∃ desk, Desk.ofSettings .keysOnly {} = .ok desk ∧
      transcript desk [.press "00", .use .backspace] =
        [(some true, "00", .none), (some false, "00", .none)] := by
  have hl : Layout.ofRows ({} : Settings).rows = .ok .satoshi := by rfl
  have hm : Markup.Fits {} .satoshi := Layout.default_markup_fits hl
  obtain ⟨⟨desk, app, hdesk, happ, hlooks⟩, hkeys, -⟩ := page_looks_like_terminal hl hm
  obtain rfl : { layout := .satoshi, controls := .all } = app := Except.ok.inj happ
  obtain ⟨bare, hbare, hbareLooks⟩ := hkeys (by decide)
  refine ⟨⟨desk, hdesk, ?_⟩, bare, hbare, ?_⟩
  · rw [hlooks.2]
    rfl
  · rw [hbareLooks.2]
    rfl

end Frontend

end AmountPad
