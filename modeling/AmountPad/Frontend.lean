import AmountPad.Action
import AmountPad.Page.Bound

/-!
# Frontends

A frontend lets a user press keys and controls and shows the amount. What a pad does can be said for
every frontend at once.

* `Frontend` — the operations, each with a flag that says whether an action ran.
-/

namespace AmountPad

/-- The operations of a frontend with states in `σ`. -/
class Frontend (σ : Type) where
  /-- Activates the key with a label. -/
  press : σ → String → σ × Bool
  clear : σ → σ × Bool
  backspace : σ → σ × Bool
  /-- What is shown. -/
  content : σ → String
  controls : σ → Controls
  /-- Goes back to the state in which the frontend started. -/
  reset : σ → σ

instance : Frontend Page.Desk where
  press := Page.Desk.press
  clear := Page.Desk.clear
  backspace := Page.Desk.backspace
  content := Page.Desk.content
  controls := Page.Desk.controls
  reset := Page.Desk.reset

end AmountPad
