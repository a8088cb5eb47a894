import AmountPad.Layout

/-!
# Buttons

What a user can press on a pad: one of its keys, or one of its controls.
-/

namespace AmountPad

inductive Button where
  /-- The key of an index. -/
  | key (index : Nat)
  | control (control : Control)
  deriving DecidableEq, Repr

namespace Layout

/-- What a button asks for. A key that the layout does not have asks for nothing. -/
def actionOf? (layout : Layout) : Button → Option Action
  | .key index => (layout.key? index).map Key.action
  | .control control => some (.ofControl control)

/-- The button to which an action belongs; none if no key has the label. -/
def buttonOf? (layout : Layout) : Action → Option Button
  | .append label => (layout.positionOf? label).map .key
  | .clear => some (.control .clear)
  | .backspace => some (.control .backspace)

end Layout

end AmountPad
