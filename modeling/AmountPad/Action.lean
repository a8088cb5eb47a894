/-!
# Actions and controls

What an activation of the pad asks of the amount, and which of those requests a pad honours.

* `Action` — append a label, clear the amount, take back its last character;
* `Controls` — which of the two controls are wired; appending never needs a control;
* `Action.ofKeyName?` — the keyboard keys that name a control.
-/

namespace AmountPad

/-- One request to change the amount. -/
inductive Action where
  | append (label : String)
  | clear
  | backspace
  deriving DecidableEq, Repr

/-- The two controls a pad may offer beside its keys. -/
inductive Control where
  | clear
  | backspace
  deriving DecidableEq, Repr

/-- The name a control goes by in messages. -/
def Control.name : Control → String
  | .clear => "clear"
  | .backspace => "backspace"

namespace Action

/-- The action that a control performs. -/
def ofControl : Control → Action
  | .clear => .clear
  | .backspace => .backspace

/-- The action of a keyboard key that names a control; every other key is a label's affair. -/
def ofKeyName? : String → Option Action
  | "Backspace" => some .backspace
  | "Escape" => some .clear
  | "Delete" => some .clear
  | _ => none

/-- Whether the action belongs to a control, as opposed to a key. -/
def isControl : Action → Bool
  | .append _ => false
  | .clear => true
  | .backspace => true

/-- How the action reads in a log line. -/
def describe : Action → String
  | .append label => "append '" ++ label ++ "'"
  | .clear => "clear"
  | .backspace => "backspace"

end Action

/-- The controls that are wired on one pad. -/
structure Controls where
  clear : Bool := false
  backspace : Bool := false
  deriving DecidableEq, Repr

namespace Controls

def all : Controls := ⟨true, true⟩

def none : Controls := ⟨false, false⟩

/-- Keys are always wired; a control's action runs only where the control is. -/
def permits (wired : Controls) : Action → Bool
  | .append _ => true
  | .clear => wired.clear
  | .backspace => wired.backspace

/-- Whether at least one control is wired. -/
def any (wired : Controls) : Bool := wired.clear || wired.backspace

@[simp] theorem permits_append (wired : Controls) (label : String) :
    wired.permits (.append label) = true := rfl

@[simp] theorem permits_all (action : Action) : all.permits action = true := by
  cases action <;> rfl

theorem permits_none (action : Action) : none.permits action = !action.isControl := by
  cases action <;> rfl

end Controls

end AmountPad
