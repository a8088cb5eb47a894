import AmountPad.Button
import AmountPad.Failure
import AmountPad.Page.Document
import AmountPad.Settings

/-!
# Views

A view is what a pad knows of its page: which nodes are its keys, which one shows the amount, and
which are its controls.

* `View.resolve` — finds these nodes, or says which one is missing;
* `View.button?` — which button a node is. A node that is a control and a key acts as the control;
  keys are counted in document order;
* `View.clickAction?`, `View.keyAction?` — what a click or a key press asks for.

Labels are read from the page when they are needed, not when the view is resolved.
-/

namespace AmountPad.Page

structure View where
  /-- The keys in document order. -/
  keys : List Handle
  display : Handle
  clear : Option Handle
  backspace : Option Handle
  deriving DecidableEq, Repr

namespace View

/-- The node of a control that has to exist. -/
def requireControl (d : Document) (control : Control) (id : String) : Except Failure Handle :=
  match d.byId? id with
  | some h => .ok h
  | none => .error (.missingControl control id)

/-- The controls that a policy binds: clear first. -/
def resolveControls (d : Document) (s : Settings) :
    Except Failure (Option Handle × Option Handle) :=
  match s.policy with
  | .disabled => .ok (none, none)
  | .optional => .ok (d.byId? s.markup.clearId, d.byId? s.markup.backspaceId)
  | .required => do
    let clear ← requireControl d .clear s.markup.clearId
    let backspace ← requireControl d .backspace s.markup.backspaceId
    return (some clear, some backspace)

/-- Finds the nodes of a pad: the display must exist, then the controls as the policy has it. -/
def resolve (d : Document) (s : Settings) : Except Failure View :=
  match d.byId? s.markup.displayId with
  | none => .error (.missingDisplay s.markup.displayId)
  | some display => do
    let (clear, backspace) ← resolveControls d s
    return ⟨d.byClass s.markup.keyClass, display, clear, backspace⟩

/-- The controls that are bound. -/
def controls (v : View) : Controls := ⟨v.clear.isSome, v.backspace.isSome⟩

/-- Which button a node is. -/
def button? (v : View) (h : Handle) : Option Button :=
  if v.clear = some h then some (.control .clear)
  else if v.backspace = some h then some (.control .backspace)
  else (v.keys.findIdx? (· == h)).map .key

/-- What a click on a node asks for. -/
def clickAction? (v : View) (d : Document) (target : Handle) : Option Action :=
  match v.button? target with
  | some (.key index) => (v.keys[index]?.bind d.innerText?).map .append
  | some (.control control) => some (.ofControl control)
  | none => none

/-- The node of the first key that shows a label. -/
def keyShowing? (v : View) (d : Document) (label : String) : Option Handle :=
  v.keys.find? fun h => d.innerText? h == some label

/-- What a key press asks for. A press that began in an element which takes typed text belongs to
that element; the name of a control comes before a label. -/
def keyAction? (v : View) (d : Document) (key : String) (origin : Option Handle) :
    Option Action :=
  if origin.any d.isEditable then none
  else (Action.ofKeyName? key).or ((v.keyShowing? d key).map fun _ => .append key)

end View

end AmountPad.Page
