import Mathlib
import AmountPad.Amount

/-!
# What has been entered

An amount is a text, and its operations are those of texts. What a user enters is a list of
characters: a label is written behind them, a clear forgets them, a backspace forgets the last one,
and a control that is not wired does nothing. This module says so without the amount, and shows that
the amount keeps to it.

Main results:

* `Amount.toList_run` — one action behind the controls of a pad;
* `Amount.toList_runAll` — a list of actions, each behind the controls of a pad.
-/

namespace AmountPad

/-- What an action makes of the characters entered before it. -/
def enter (wired : Controls) (chars : List Char) : Action → List Char
  | .append label => chars ++ label.toList
  | .clear => if wired.clear then [] else chars
  | .backspace => if wired.backspace then chars.dropLast else chars

/-- What a list of actions enters on a fresh pad. -/
def entered (wired : Controls) (actions : List Action) : List Char :=
  actions.foldl (enter wired) []

/-- A control that is not wired enters nothing. -/
theorem enter_of_not_permits {wired : Controls} {action : Action}
    (h : wired.permits action = false) (chars : List Char) :
    enter wired chars action = chars := by
  cases action with
  | append label => simp at h
  | clear =>
    rw [Controls.permits] at h
    simp [enter, h]
  | backspace =>
    rw [Controls.permits] at h
    simp [enter, h]

namespace Amount

/-- An action that is permitted enters what it enters as text. -/
theorem toList_apply {wired : Controls} {action : Action} (h : wired.permits action = true)
    (a : Amount) : (a.apply action).text.toList = enter wired a.text.toList action := by
  cases action with
  | append label => simp [apply, enter]
  | clear =>
    rw [Controls.permits] at h
    simp [apply, enter, h]
  | backspace =>
    rw [Controls.permits] at h
    simp [apply, enter, h]

/-- An action that is run behind controls enters what it enters there, which is nothing if the
controls do not permit it. -/
theorem toList_run (a : Amount) (wired : Controls) (action : Action) :
    (a.run wired action).text.toList = enter wired a.text.toList action := by
  rw [run_eq]
  cases h : wired.permits action with
  | false => simp [enter_of_not_permits h]
  | true => simpa using toList_apply h a

/-- Actions that are run one after the other enter their characters one after the other, from any
amount. -/
theorem toList_runAll (a : Amount) (wired : Controls) (actions : List Action) :
    (a.runAll wired actions).text.toList = actions.foldl (enter wired) a.text.toList := by
  induction actions generalizing a with
  | nil => rfl
  | cons action rest ih =>
    rw [runAll, List.foldl_cons, List.foldl_cons, ← toList_run]
    exact ih (a.run wired action)

end Amount

end AmountPad
