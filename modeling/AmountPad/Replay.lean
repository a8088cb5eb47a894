import AmountPad.Terminal.App
import AmountPad.Text.Paint

/-!
# Replays

A replay runs scripted tokens against a fresh pad. All tokens are read before any is run, so that a
token without a meaning leaves nothing half done.

* `Replay.run` — one step for every token, or the first token that means nothing;
* `Replay.finalContent` — what the display shows in the end;
* `Replay.Step.line` — a step as a line of text.
-/

namespace AmountPad.Replay

/-- One token, and the display after it. -/
structure Step where
  token : String
  action : Action
  /-- Whether the action ran; a control that is not wired refuses it. -/
  applied : Bool
  content : String
  deriving DecidableEq, Repr

/-- The actions that tokens ask for, up to the first token that asks for none. -/
def readTokens (layout : Layout) (tokens : List String) : Except Failure (List Action) :=
  tokens.mapM layout.readToken

/-- Runs the actions of tokens one after the other. -/
def steps (app : Terminal.App) : List (String × Action) → List Step
  | [] => []
  | (token, action) :: rest =>
    let (next, applied) := app.apply action
    ⟨token, action, applied, next.amount.text⟩ :: steps next rest

/-- Replays tokens on an app. -/
def run (app : Terminal.App) (tokens : List String) : Except Failure (List Step) := do
  return steps app (tokens.zip (← readTokens app.layout tokens))

/-- Replays tokens on the app of settings. -/
def ofSettings (s : Settings) (tokens : List String) : Except Failure (List Step) := do
  run (← Terminal.App.ofSettings s) tokens

/-- What the display shows after the last step; nothing where there was none. -/
def finalContent (steps : List Step) : String :=
  match steps.getLast? with
  | some step => step.content
  | none => ""

/-- The number of columns that a token has in a line. -/
def tokenColumns : Nat := 9

/-- A text with blanks in front of it, up to a number of characters. -/
def alignRight (width : Nat) (s : String) : String :=
  String.ofList (List.replicate (width - s.toList.length) ' ' ++ s.toList)

namespace Step

/-- The line of a token and of the content after it. -/
def lineOf (coloured applied : Bool) (token content : String) : String :=
  let tokenPaint : Text.Paint := if applied then .cyan else .dim
  let token := Text.paintIf coloured [tokenPaint] (alignRight tokenColumns token)
  let content := if content = "" then Text.paintIf coloured [.dim] "(empty)"
    else Text.paintIf coloured [.green] content
  token ++ " -> " ++ content

/-- A step as a line of text. -/
def line (step : Step) (coloured : Bool) : String :=
  lineOf coloured step.applied step.token step.content

end Step

/-! ## What a replay keeps -/

@[simp] theorem steps_nil (app : Terminal.App) : steps app [] = [] := rfl

theorem length_steps (app : Terminal.App) (actions : List (String × Action)) :
    (steps app actions).length = actions.length := by
  induction actions generalizing app with
  | nil => rfl
  | cons a rest ih => simp [steps, ih]

theorem map_token_steps (app : Terminal.App) (actions : List (String × Action)) :
    (steps app actions).map Step.token = actions.map Prod.fst := by
  induction actions generalizing app with
  | nil => rfl
  | cons a rest ih => simp [steps, ih]

end AmountPad.Replay
