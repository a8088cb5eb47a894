import Mathlib
import AmountPad.Proofs.Entry
import AmountPad.Proofs.Layout
import AmountPad.Terminal.App

/-!
# What an app holds

An app goes on with the layout and the controls that its settings gave it. All that its operations
change for good is the amount, and that only by running actions.

* `App.Holds` — what an app holds: a layout, controls, and the characters entered so far.

Main results:

* `App.ofSettings_eq_ok_iff`, `App.ofSettings_eq_error_iff` — settings have an app if their rows
  make a layout, and else give the flaw of the rows;
* `App.apply_snd` — an action runs if the controls permit it;
* `App.type_eq_ite` — what a typed character does;
* `App.Holds.apply`, `App.Holds.applyAll` — actions enter what they enter behind the controls.
-/

namespace AmountPad.Terminal

namespace App

/-! ## Apps of settings -/

/-- The app of a layout and a policy at its start. -/
def start (layout : Layout) (policy : Policy) : App :=
  { layout := layout, controls := controlsUnder policy }

/-- Settings have an app exactly if their rows make a layout, and the app is the one at its start.
-/
theorem ofSettings_eq_ok_iff {s : Settings} {app : App} : ofSettings s = .ok app ↔
    ∃ layout, Layout.ofRows s.rows = .ok layout ∧ app = start layout s.policy := by
  rw [ofSettings, Layout.build]
  cases Layout.ofRows s.rows with
  | error flaw => simp [Except.mapError, bind, Except.bind]
  | ok layout =>
    simp [Except.mapError, bind, Except.bind, pure, Except.pure, start, eq_comm]

/-- Settings have no app exactly if their rows have a flaw, which is what they fail with. -/
theorem ofSettings_eq_error_iff {s : Settings} {e : Failure} : ofSettings s = .error e ↔
    ∃ flaw, Layout.ofRows s.rows = .error flaw ∧ e = .invalidLayout flaw := by
  rw [ofSettings, Layout.build]
  cases Layout.ofRows s.rows with
  | error flaw => simp [Except.mapError, bind, Except.bind, eq_comm]
  | ok layout => simp [Except.mapError, bind, Except.bind, pure, Except.pure]

/-! ## Actions -/

/-- An action that runs changes the amount and highlights its button. -/
theorem apply_of_run?_eq_some {app : App} {action : Action} {amount : Amount}
    (h : app.amount.run? app.controls action = some amount) : app.apply action =
      ({ app with amount := amount, pressed := app.layout.buttonOf? action }, true) := by
  rw [apply, h]

/-- An action that does not run changes nothing, the highlight included. -/
theorem apply_of_run?_eq_none {app : App} {action : Action}
    (h : app.amount.run? app.controls action = none) : app.apply action = (app, false) := by
  rw [apply, h]

/-- An action that the controls do not permit does nothing. -/
theorem apply_of_not_permits {app : App} {action : Action}
    (h : app.controls.permits action = false) : app.apply action = (app, false) :=
  apply_of_run?_eq_none (by simp [Amount.run?, h])

/-- The flag of an action says whether the controls permit it. -/
theorem apply_snd (app : App) (action : Action) :
    (app.apply action).2 = app.controls.permits action := by
  rw [← Amount.run?_isSome app.amount, apply]
  cases app.amount.run? app.controls action <;> rfl

theorem leaving_apply (app : App) (action : Action) :
    (app.apply action).1.leaving = app.leaving := by
  rw [apply]
  cases app.amount.run? app.controls action <;> rfl

theorem leaving_applyAny (app : App) (action : Option Action) :
    (app.applyAny action).1.leaving = app.leaving := by
  cases action with
  | none => rfl
  | some action => exact leaving_apply app action

/-- A typed character goes to the key with that label, and where there is none, a `q` leaves. -/
theorem type_eq_ite (app : App) (c : Char) : app.type c =
    if c = 'q' ∧ "q" ∉ app.layout.labels then (app.leave, false)
    else app.applyAny ((app.layout.findLabel? c.toString).map Key.action) := by
  rw [type]
  cases hf : app.layout.findLabel? c.toString with
  | some key =>
    -- a label is pressed, also one that would else leave
    have hstay : ¬(c = 'q' ∧ "q" ∉ app.layout.labels) := by
      rintro ⟨rfl, hnot⟩
      have hnone : app.layout.findLabel? 'q'.toString = none :=
        Layout.findLabel?_eq_none_iff.mpr hnot
      rw [hnone] at hf
      exact nomatch hf
    rw [if_neg hstay]
    rfl
  | none =>
    have hnot : c.toString ∉ app.layout.labels := Layout.findLabel?_eq_none_iff.mp hf
    by_cases hq : c = 'q'
    · subst hq
      have hleave : 'q' = 'q' ∧ "q" ∉ app.layout.labels := ⟨rfl, hnot⟩
      rw [if_pos hleave]
      rfl
    · have hstay : ¬(c = 'q' ∧ "q" ∉ app.layout.labels) := fun h => hq h.1
      rw [if_neg hstay]
      exact if_neg hq

/-- An app after a list of actions. -/
def applyAll (app : App) (actions : List Action) : App :=
  actions.foldl (fun app action => (app.apply action).1) app

/-! ## What an app holds -/

/-- An app over a layout, with these controls and an amount of these characters. -/
structure Holds (layout : Layout) (wired : Controls) (chars : List Char) (app : App) : Prop where
  layout_eq : app.layout = layout
  controls_eq : app.controls = wired
  entered : app.amount.text.toList = chars

/-- An app starts with no character entered. -/
theorem start_holds (layout : Layout) (policy : Policy) :
    Holds layout (controlsUnder policy) [] (start layout policy) :=
  ⟨rfl, rfl, Amount.toList_empty⟩

namespace Holds

variable {layout : Layout} {wired : Controls} {chars : List Char} {app : App}

theorem leave (h : Holds layout wired chars app) : Holds layout wired chars app.leave :=
  ⟨h.layout_eq, h.controls_eq, h.entered⟩

/-- An action enters what it enters behind the controls. -/
theorem apply (h : Holds layout wired chars app) (action : Action) :
    Holds layout wired (enter wired chars action) (app.apply action).1 := by
  have hchars := Amount.toList_run app.amount wired action
  rw [h.entered, Amount.run] at hchars
  cases hr : app.amount.run? app.controls action with
  | none =>
    rw [apply_of_run?_eq_none hr]
    rw [← h.controls_eq, hr, Option.getD_none, h.entered, h.controls_eq] at hchars
    exact ⟨h.layout_eq, h.controls_eq, h.entered.trans hchars⟩
  | some amount =>
    rw [apply_of_run?_eq_some hr]
    rw [← h.controls_eq, hr, Option.getD_some, h.controls_eq] at hchars
    exact ⟨h.layout_eq, h.controls_eq, hchars⟩

/-- A list of actions enters what its actions enter one after the other. -/
theorem applyAll (h : Holds layout wired chars app) (actions : List Action) :
    Holds layout wired (actions.foldl (enter wired) chars) (app.applyAll actions) := by
  induction actions generalizing app chars with
  | nil => exact h
  | cons action rest ih => exact ih (h.apply action)

end Holds

end App

end AmountPad.Terminal
