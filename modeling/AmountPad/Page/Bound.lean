import AmountPad.Amount
import AmountPad.Page.Keypad
import AmountPad.Page.View

/-!
# Pads bound to a page

A bound pad reacts to the events of its page and shows the amount in its display, which it writes
and never reads.

* `Bound.attach` — binds a pad to a document;
* `Bound.handle` — records an event and reacts to it; the flag says whether an action ran;
* `Bound.ofSettings` — builds a page and binds to it.
-/

namespace AmountPad.Page

/-- The pad's side of a binding. -/
structure Pad where
  view : View
  amount : Amount := .empty
  deriving DecidableEq, Repr

/-- A pad and the document it is bound to. -/
structure Bound where
  document : Document
  pad : Pad
  deriving DecidableEq, Repr

namespace Bound

/-- The controls that are bound. -/
def controls (b : Bound) : Controls := b.pad.view.controls

/-- Writes the amount to the display. -/
def sync (b : Bound) : Bound :=
  { b with document := b.document.setText b.pad.view.display b.pad.amount.text }

/-- Binds a pad to a document and empties its display. -/
def attach (d : Document) (s : Settings) : Except Failure Bound := do
  let view ← View.resolve d s
  return sync ⟨d, { view := view }⟩

/-- Empties the amount and the display. -/
def reset (b : Bound) : Bound := sync { b with pad := { b.pad with amount := .empty } }

/-- What an event asks for. -/
def actionFor? (b : Bound) : Event → Option Action
  | .click target => b.pad.view.clickAction? b.document target
  | .keyDown key target => b.pad.view.keyAction? b.document key target

/-- Runs an action if the bound controls permit it. -/
def run (b : Bound) (action : Action) : Bound × Bool :=
  match b.pad.amount.run? b.controls action with
  | some amount => (sync { b with pad := { b.pad with amount := amount } }, true)
  | none => (b, false)

/-- Records an event and reacts to it. What it asks for is decided before it is recorded. -/
def handle (b : Bound) (event : Event) : Bound × Bool :=
  let recorded : Bound := { b with document := b.document.record event }
  match b.actionFor? event with
  | some action => recorded.run action
  | none => (recorded, false)

def click (b : Bound) (target : Handle) : Bound × Bool := b.handle (.click target)

/-- Clicks the element with an identifier, if there is one. -/
def clickId (b : Bound) (id : String) : Bound × Bool :=
  match b.document.byId? id with
  | some h => b.click h
  | none => (b, false)

/-- Clicks the first key that shows a label, if there is one. -/
def clickLabel (b : Bound) (label : String) : Bound × Bool :=
  match b.pad.view.keyShowing? b.document label with
  | some h => b.click h
  | none => (b, false)

/-- Presses a keyboard key while nothing has the focus. -/
def pressKey (b : Bound) (key : String) : Bound × Bool := b.handle (.keyDown key none)

/-- What the display shows. -/
def shown? (b : Bound) : Option String := b.document.text? b.pad.view.display

end Bound

/-- A pad on a page of its own, with the identifiers of its controls. -/
structure Desk where
  bound : Bound
  clearId : String
  backspaceId : String
  deriving DecidableEq, Repr

namespace Desk

/-- Builds the page of a layout and binds a pad to it. -/
def ofSettings (variant : Variant) (s : Settings) : Except Failure Desk := do
  let layout ← Layout.build s.rows
  let bound ← Bound.attach (.ofKeypad layout s.markup variant) s
  return ⟨bound, s.markup.clearId, s.markup.backspaceId⟩

/-- Carries on with a pad that an event has changed. -/
def after (desk : Desk) (result : Bound × Bool) : Desk × Bool :=
  ({ desk with bound := result.1 }, result.2)

def press (desk : Desk) (label : String) : Desk × Bool := desk.after (desk.bound.clickLabel label)

def clear (desk : Desk) : Desk × Bool := desk.after (desk.bound.clickId desk.clearId)

def backspace (desk : Desk) : Desk × Bool := desk.after (desk.bound.clickId desk.backspaceId)

/-- What the display shows. -/
def content (desk : Desk) : String := desk.bound.shown?.getD ""

def controls (desk : Desk) : Controls := desk.bound.controls

/-- Empties the amount and forgets the events. -/
def reset (desk : Desk) : Desk :=
  let b := desk.bound.reset
  { desk with bound := { b with document := b.document.clearHistory } }

end Desk

end AmountPad.Page
