import AmountPad.Frontend

/-!
# Scenarios

A scenario is a list of operations on a frontend together with what is expected of them. It stops
at the first expectation that is not met, and the frontend stays as it is at that point.

* `Scenario.run` — runs a scenario on a frontend;
* `accumulation`, `backspaceThenClear`, `repeatedClear`, `backspaceOneCharacter`, `keysOnly` — what
  is expected of every frontend over the satoshi layout, given its controls;
* `Scenario.runAll` — those of them that a frontend's controls admit.
-/

namespace AmountPad

/-- One step of a scenario. -/
inductive ScenarioStep where
  | reset
  /-- Presses a key, whether it exists or not. -/
  | press (label : String)
  /-- Presses a key that has to exist. -/
  | pressKey (label : String)
  /-- Uses a control, which has to run or has to be refused. -/
  | use (control : Control) (runs : Bool)
  | shows (content : String)
  | wired (controls : Controls)
  deriving DecidableEq, Repr

abbrev Scenario := List ScenarioStep

namespace Scenario

variable {σ : Type} [Frontend σ]

/-- Uses a control of a frontend. -/
def useControl (s : σ) : Control → σ × Bool
  | .clear => Frontend.clear s
  | .backspace => Frontend.backspace s

/-- One step: the state after it, and whether it went as expected. -/
def step (s : σ) : ScenarioStep → σ × Bool
  | .reset => (Frontend.reset s, true)
  | .press label => ((Frontend.press s label).1, true)
  | .pressKey label => Frontend.press s label
  | .use control runs =>
    let (s, ran) := useControl s control
    (s, ran == runs)
  | .shows content => (s, Frontend.content s == content)
  | .wired controls => (s, Frontend.controls s == controls)

/-- The state in which a scenario ends, and whether it went through. -/
def run : σ → Scenario → σ × Bool
  | s, [] => (s, true)
  | s, x :: rest =>
    match step s x with
    | (s, true) => run s rest
    | (s, false) => (s, false)

/-- Presses keys one after the other; the display shows all labels so far. -/
def pressing : String → List String → Scenario
  | _, [] => []
  | content, label :: labels =>
    .pressKey label :: .shows (content ++ label) :: pressing (content ++ label) labels

/-- Labels are shown in the order in which their keys are pressed. -/
def accumulation : Scenario :=
  .reset :: .shows "" :: pressing "" ["1", "00", "5", "000", "0"]

/-- A backspace takes back one digit, a clear the rest. -/
def backspaceThenClear : Scenario :=
  [.reset, .press "4", .press "2", .shows "42", .use .backspace true, .shows "4",
    .use .clear true, .shows "", .use .backspace true, .shows ""]

/-- A second clear changes nothing. -/
def repeatedClear : Scenario :=
  [.reset, .press "7", .press "000", .use .clear true, .shows "", .use .clear true, .shows ""]

/-- A backspace takes one character of a longer label. -/
def backspaceOneCharacter : Scenario :=
  [.reset, .press "000", .use .backspace true, .shows "00"]

/-- Without controls only keys do anything. -/
def keysOnly : Scenario :=
  [.reset, .wired .none, .press "7", .press "0", .shows "70", .use .clear false,
    .use .backspace false, .shows "70"]

/-- The scenarios that fit a frontend's controls. -/
def applicable (controls : Controls) : Scenario :=
  if controls = .all then backspaceThenClear ++ repeatedClear ++ backspaceOneCharacter
  else if controls = .none then keysOnly
  else []

/-- Every scenario that fits a frontend, and a last reset. -/
def runAll (s : σ) : σ × Bool :=
  match run s accumulation with
  | (s, true) => run s (applicable (Frontend.controls s) ++ [.reset])
  | (s, false) => (s, false)

end Scenario

end AmountPad
