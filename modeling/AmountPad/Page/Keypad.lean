import AmountPad.Layout
import AmountPad.Page.Document
import AmountPad.Settings

/-!
# The page of a pad

`Document.ofKeypad` builds the page that shows a layout: a panel with the display, a grid with one
button for each key, and behind them the two controls unless they are left out.
-/

namespace AmountPad.Page

/-- Whether a page has controls. -/
inductive Variant where
  | keysOnly
  | withControls
  deriving DecidableEq, Repr

/-- The button of a key. -/
def keyButton (markup : Markup) (key : Key) : Element where
  tag := "button"
  id := key.id
  text := key.label
  classes := [markup.keyClass]
  attributes := [("data-row", toString key.row), ("data-col", toString key.col)]

/-- The button of a control. -/
def controlButton (id label : String) : Element where
  tag := "button"
  id := id
  text := label
  classes := ["control"]

namespace Document

/-- Adds elements as the last children of a node, one after the other. -/
def appendAll (d : Document) (parent : Handle) (elements : List Element) : Document :=
  elements.foldl (fun d e => d.append parent e) d

/-- The controls of a page, clear before backspace. -/
def controlButtons (markup : Markup) : Variant → List Element
  | .keysOnly => []
  | .withControls => [controlButton markup.clearId "C", controlButton markup.backspaceId "⌫"]

/-- The page that shows a layout. -/
def ofKeypad (layout : Layout) (markup : Markup) (variant : Variant) : Document :=
  let blank : Document := {}
  let panel := blank.size
  let d := blank.append root { id := "amount-panel" }
  let d := d.append panel { tag := "span", id := markup.displayId, classes := ["display"] }
  let grid := d.size
  let d := d.append root { id := "keypad-grid" }
  let d := d.appendAll grid (layout.keys.map (keyButton markup))
  d.appendAll root (controlButtons markup variant)

end Document

end AmountPad.Page
