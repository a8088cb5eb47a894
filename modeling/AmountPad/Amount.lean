import AmountPad.Action

/-!
# The amount

The text accumulated from activations since the last clear. It is the only state of a pad that
its display shows; frontends copy it outwards and never read it back.

* `Amount.apply` — what an action does to the text;
* `Amount.run?` — the same behind the controls of a pad: `none` when the pad refuses.
-/

namespace AmountPad

/-- The text entered so far. -/
structure Amount where
  text : String := ""
  deriving DecidableEq, Repr

namespace Amount

/-- Nothing entered. -/
def empty : Amount := ⟨""⟩

def isEmpty (a : Amount) : Bool := a.text.isEmpty

/-- The number of characters, each counted once however it is encoded. -/
def length (a : Amount) : Nat := a.text.toList.length

/-- Writes a label behind what is there. -/
def append (a : Amount) (label : String) : Amount := ⟨a.text ++ label⟩

/-- The last character, which a backspace would remove. -/
def last? (a : Amount) : Option Char := a.text.toList.getLast?

/-- Takes back the last character; an empty amount stays empty. -/
def backspace (a : Amount) : Amount := ⟨String.ofList a.text.toList.dropLast⟩

/-- What an action does, wherever it came from. -/
def apply (a : Amount) : Action → Amount
  | .append label => a.append label
  | .clear => empty
  | .backspace => a.backspace

/-- The amount after an action, or `none` if the wired controls do not permit it. -/
def run? (a : Amount) (wired : Controls) (action : Action) : Option Amount :=
  if wired.permits action then some (a.apply action) else none

/-- The amount after an action that a pad may refuse; a refused action changes nothing. -/
def run (a : Amount) (wired : Controls) (action : Action) : Amount :=
  (a.run? wired action).getD a

/-- The amount after a list of actions, each behind the wired controls. -/
def runAll (a : Amount) (wired : Controls) (actions : List Action) : Amount :=
  actions.foldl (fun a action => a.run wired action) a

/-! ## What the operations do to the characters -/

@[simp] theorem toList_append (a : Amount) (label : String) :
    (a.append label).text.toList = a.text.toList ++ label.toList := by
  simp [append]

@[simp] theorem toList_backspace (a : Amount) :
    a.backspace.text.toList = a.text.toList.dropLast := by
  simp [backspace]

@[simp] theorem toList_empty : empty.text.toList = [] := by
  simp [empty]

theorem length_append (a : Amount) (label : String) :
    (a.append label).length = a.length + label.toList.length := by
  simp [length]

theorem length_backspace (a : Amount) : a.backspace.length = a.length - 1 := by
  simp [length]

@[simp] theorem run?_append (a : Amount) (wired : Controls) (label : String) :
    a.run? wired (.append label) = some (a.append label) := rfl

theorem run?_isSome (a : Amount) (wired : Controls) (action : Action) :
    (a.run? wired action).isSome = wired.permits action := by
  cases h : wired.permits action <;> simp [run?, h]

theorem run_eq (a : Amount) (wired : Controls) (action : Action) :
    a.run wired action = if wired.permits action then a.apply action else a := by
  cases h : wired.permits action <;> simp [run, run?, h]

end Amount

end AmountPad
