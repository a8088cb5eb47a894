import AmountPad.Amount
import AmountPad.Button
import AmountPad.Failure
import AmountPad.Frontend
import AmountPad.Settings
import AmountPad.Terminal.KeyPress

/-!
# The terminal app

The state of a pad on the terminal: the amount, the button pressed last, and whether the user wants
to leave. The terminal has a place for both controls, so that only the `disabled` policy takes them
away.

* `App.apply` — runs an action; `App.press`, `App.click`, `App.command` — what the user does;
* `App.ofSettings` — an app over settings.
-/

namespace AmountPad.Terminal

structure App where
  layout : Layout := .satoshi
  controls : Controls := .all
  amount : Amount := .empty
  /-- The button that ran last. -/
  pressed : Option Button := none
  /-- Whether the user asked to leave. -/
  leaving : Bool := false
  deriving DecidableEq, Repr

namespace App

/-- The controls that a policy leaves. -/
def controlsUnder : Policy → Controls
  | .disabled => .none
  | .optional => .all
  | .required => .all

/-- The app of settings. -/
def ofSettings (s : Settings) : Except Failure App := do
  return { layout := ← Layout.build s.rows, controls := controlsUnder s.policy }

/-- Runs an action if the controls permit it; the flag says whether it ran. -/
def apply (app : App) (action : Action) : App × Bool :=
  match app.amount.run? app.controls action with
  | some amount => ({ app with amount := amount, pressed := app.layout.buttonOf? action }, true)
  | none => (app, false)

/-- Runs an action that there may not be. -/
def applyAny (app : App) (action : Option Action) : App × Bool :=
  match action with
  | some action => app.apply action
  | none => (app, false)

/-- Activates the key with a label. -/
def press (app : App) (label : String) : App × Bool :=
  app.applyAny ((app.layout.findLabel? label).map Key.action)

/-- Activates a button. -/
def click (app : App) (b : Button) : App × Bool := app.applyAny (app.layout.actionOf? b)

def leave (app : App) : App := { app with leaving := true }

/-- A typed character activates the key with that label; where there is none, `q` leaves. -/
def type (app : App) (c : Char) : App × Bool :=
  match app.layout.findLabel? c.toString with
  | some key => app.apply key.action
  | none => if c = 'q' then (app.leave, false) else (app, false)

/-- Does what a user asks for at the keyboard. -/
def command (app : App) : Command → App × Bool
  | .insert c => app.type c
  | .backspace => app.apply .backspace
  | .clear => app.apply .clear
  | .quit => (app.leave, false)

/-- Reacts to a key press. -/
def keyPress (app : App) (k : KeyPress) : App × Bool :=
  match k.command? with
  | some c => app.command c
  | none => (app, false)

/-- Empties the amount. -/
def reset (app : App) : App := { app with amount := .empty, pressed := none }

end App

instance : Frontend App where
  press := App.press
  clear app := app.click (.control .clear)
  backspace app := app.click (.control .backspace)
  content app := app.amount.text
  controls := App.controls
  reset := App.reset

end AmountPad.Terminal
