import AmountPad.Terminal.Session

/-!
# Reports of a terminal

What a terminal reports while a user works it: keys that go down, repeat or come up, with every
modifier that is held at the time; what is done with any button of a mouse; changes of its size and
the like. A session has a meaning for few of them.

* `Report.event` — what a report means to a session;
* `Moment` — a report together with the size of the terminal at that time.
-/

namespace AmountPad.Terminal

inductive Modifier where
  | shift
  | control
  | alt
  | superKey
  | hyperKey
  | metaKey
  deriving DecidableEq, Repr

inductive MouseButton where
  | left
  | middle
  | right
  deriving DecidableEq, Repr

/-- What is done with a mouse. -/
inductive MouseKind where
  | down (button : MouseButton)
  | up (button : MouseButton)
  | drag (button : MouseButton)
  | moved
  | scrolled
  deriving DecidableEq, Repr

inductive Report where
  | key (code : KeyCode) (modifiers : List Modifier) (kind : KeyKind)
  | mouse (kind : MouseKind) (x y : Nat)
  | resized (width height : Nat)
  /-- Any report of something else, such as the focus or a pasted text. -/
  | other
  deriving DecidableEq, Repr

/-- What a report means to a session: of the modifiers only control matters, of a mouse only that
its left button goes down. -/
def Report.event : Report → TerminalEvent
  | .key code modifiers kind => .key ⟨code, .control ∈ modifiers, kind⟩
  | .mouse (.down .left) x y => .leftPress x y
  | .mouse _ _ _ => .other
  | .resized _ _ => .other
  | .other => .other

/-- A report, and the size of the terminal when it is read. -/
structure Moment where
  report : Report
  width : Nat
  height : Nat
  deriving DecidableEq, Repr

namespace Moment

/-- The whole terminal. -/
def screen (m : Moment) : Rect := .clipped 0 0 m.width m.height

/-- What the report means, on the screen as it is then. -/
def event (m : Moment) : Rect × TerminalEvent := (m.screen, m.report.event)

end Moment

end AmountPad.Terminal
