import AmountPad.Terminal.App
import AmountPad.Terminal.Display

/-!
# Interactive sessions

A session takes terminal events one after the other until the user leaves. A press of the left mouse
button goes to the button under it, as the screen is at that moment; other mouse events, and a
change of the terminal's size, do nothing by themselves.

* `App.event` — one event;
* `App.events` — events up to the one with which the user leaves, and how many that were;
* `App.actions` — the actions that those events asked for.
-/

namespace AmountPad.Terminal

inductive TerminalEvent where
  | key (k : KeyPress)
  /-- A press of the left mouse button. -/
  | leftPress (x y : Nat)
  /-- Any event without a meaning to a pad. -/
  | other
  deriving DecidableEq, Repr

namespace App

/-- The button under a point of a screen. -/
def buttonUnder? (app : App) (screen : Rect) (x y : Nat) : Option Button :=
  hitTest app.layout app.controls (keypadArea screen) x y

/-- Reacts to an event on a screen. -/
def event (app : App) (screen : Rect) : TerminalEvent → App
  | .key k => (app.keyPress k).1
  | .leftPress x y =>
    match app.buttonUnder? screen x y with
    | some b => (app.click b).1
    | none => app
  | .other => app

/-- The app after events, each with the screen as it is then, up to the one that ends the session;
and the number of events that were taken. -/
def events (app : App) : List (Rect × TerminalEvent) → App × Nat
  | [] => (app, 0)
  | (screen, e) :: rest =>
    if app.leaving then (app, 0)
    else
      let (last, count) := (app.event screen e).events rest
      (last, count + 1)

/-- The action that a command asks for. -/
def commandAction? (app : App) : Command → Option Action
  | .insert c => (app.layout.findLabel? c.toString).map Key.action
  | .backspace => some .backspace
  | .clear => some .clear
  | .quit => none

/-- The action that an event asks for. -/
def action? (app : App) (screen : Rect) : TerminalEvent → Option Action
  | .key k => k.command?.bind app.commandAction?
  | .leftPress x y => (app.buttonUnder? screen x y).bind app.layout.actionOf?
  | .other => none

/-- The actions that the events of a session ask for, each with whether it ran and the content
after it. -/
def actions (app : App) : List (Rect × TerminalEvent) → List (Action × Bool × String)
  | [] => []
  | (screen, e) :: rest =>
    if app.leaving then []
    else
      let next := app.event screen e
      match app.action? screen e with
      | some a => (a, (app.apply a).2, next.amount.text) :: next.actions rest
      | none => next.actions rest

end App

end AmountPad.Terminal
