import AmountPad.Action
import AmountPad.Json.Reader
import AmountPad.Json.Writer

/-!
# Actions as JSON

An action is an object whose member `action` names it; for an append a second member, `label`,
holds what is appended. The members may come in either order.

* `Action.toJson` — the compact text of an action;
* `Action.ofJson` — reads that text, with other members skipped.
-/

namespace AmountPad.Action

open Json (Fault Found Node Reader)

/-- The compact JSON text of an action. -/
def toJson (action : Action) : String :=
  let name (s : String) := ("action", Node.text s)
  let members := match action with
    | .append label => [name "append", ("label", .text label)]
    | .clear => [name "clear"]
    | .backspace => [name "backspace"]
  String.ofList (Node.object members).compact

/-- The actions by name, before a label is known. -/
inductive Kind where
  | append
  | clear
  | backspace
  deriving DecidableEq, Repr

/-- The names under which actions are written. -/
def kinds : List (String × Kind) :=
  [("append", .append), ("clear", .clear), ("backspace", .backspace)]

/-- What a text that is no action is told to be. -/
def expected : String := "adjacently tagged enum KeypadAction"

/-- The kind of value that a control's label may have: none but null. -/
def unitOf (name : String) : String := "unit variant KeypadAction::" ++ name

/-- The label of an action whose kind is known. -/
def readLabel (kind : Kind) : Reader Action := fun ts => do
  match kind with
  | .append =>
    let (label, ts) ← Reader.text "a string" ts
    return (.append label, ts)
  | .clear =>
    let ((), ts) ← Reader.null (unitOf "Clear") ts
    return (.clear, ts)
  | .backspace =>
    let ((), ts) ← Reader.null (unitOf "Backspace") ts
    return (.backspace, ts)

/-- The same for a label that was read before the kind was known. -/
def ofFound (kind : Kind) (label : Found) : Except Fault Action :=
  match kind, label with
  | .append, .text s => .ok (.append s)
  | .append, found => .error (.wrongType found "a string")
  | .clear, .null => .ok .clear
  | .clear, found => .error (.wrongType found (unitOf "Clear"))
  | .backspace, .null => .ok .backspace
  | .backspace, found => .error (.wrongType found (unitOf "Backspace"))

/-- An action for which no label was given. -/
def withoutLabel : Kind → Except Fault Action
  | .append => .error (.missingField "label")
  | .clear => .ok .clear
  | .backspace => .ok .backspace

/-- What is known of an action part way through its members. -/
inductive Partial where
  | nothing
  | kind (kind : Kind)
  | label (label : Found)
  | whole (action : Action)

/-- Labels that come before the kind may be nested this deep. -/
def labelDepth : Nat := 126

/-- Whether a member was given before. -/
def Partial.has (known : Partial) (name : String) : Bool :=
  match known, name with
  | .kind _, "action" => true
  | .label _, "label" => true
  | .whole _, name => name == "action" || name == "label"
  | _, _ => false

/-- Takes one member of an action. -/
def step (known : Partial) (name : String) : Reader Partial := fun ts => do
  match name, known with
  | "action", .label label =>
    let (kind, ts) ← Reader.member (Reader.variant kinds) ts
    return (.whole (← ofFound kind label), ts)
  | "action", _ =>
    let (kind, ts) ← Reader.member (Reader.variant kinds) ts
    return (.kind kind, ts)
  | "label", .kind kind =>
    let (action, ts) ← Reader.member (readLabel kind) ts
    return (.whole action, ts)
  | "label", _ =>
    let (label, ts) ← Reader.member (Reader.found labelDepth) ts
    return (.label label, ts)
  | _, _ => return (known, ← Reader.skipMember ts)

/-- The action that all members together give. -/
def complete : Partial → Except Fault Action
  | .nothing => .error (.missingField "action")
  | .kind kind => withoutLabel kind
  | .label _ => .error (.missingField "action")
  | .whole action => .ok action

/-- An action as an object, or as a list of its name and its label. -/
def reader : Reader Action
  | [] => .error .endInValue
  | .openObject :: ts => do
    let (known, ts) ← Reader.members Partial.has step (ts.length + 1) true .nothing ts
    return (← complete known, ts)
  | .openList :: ts => do
    let some ts ← Reader.nextItem? true ts | throw (.wrongLength 0 expected)
    let (kind, ts) ← Reader.choice kinds ts
    let some ts ← Reader.nextItem? false ts | throw (.wrongLength 1 expected)
    let (action, ts) ← readLabel kind ts
    return (action, ← Reader.endList ts)
  | t :: _ => .error (Reader.mismatch expected t)

/-- Reads the JSON text of an action. -/
def ofJson (text : String) : Except Fault Action := Reader.ofText reader text

end AmountPad.Action
