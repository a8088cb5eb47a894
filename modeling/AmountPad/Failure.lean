import AmountPad.Files
import AmountPad.Json.Fault
import AmountPad.Layout
import AmountPad.Yaml.Fault

/-!
# What can go wrong with a pad

Every reason for which a pad cannot be configured, bound or driven.

* `Failure.message` — its text. The text of a broken configuration ends where it would go on to
  name a place;
* `Failure.isPlaced` — whether it would.
-/

namespace AmountPad

inductive Failure where
  /-- No element has the identifier of the display. -/
  | missingDisplay (id : String)
  /-- No element has the identifier of a control that is required. -/
  | missingControl (control : Control) (id : String)
  | invalidLayout (flaw : Layout.Flaw)
  /-- A token is neither a label nor a control. -/
  | unknownToken (token : String)
  | brokenJson (fault : Json.Fault)
  | brokenYaml (fault : Yaml.Fault)
  | file (fault : Files.Fault)
  deriving DecidableEq, Repr

namespace Failure

def message : Failure → String
  | .missingDisplay id => "display element '#" ++ id ++ "' not found"
  | .missingControl control id =>
    control.name ++ " control '#" ++ id ++ "' not found (control policy is 'required')"
  | .invalidLayout flaw => "invalid keypad layout: " ++ flaw.message
  | .unknownToken token => "unknown keypad token '" ++ token ++ "'"
  | .brokenJson fault => "configuration error: " ++ fault.message
  | .brokenYaml fault => "configuration error: " ++ fault.message
  | .file fault => "I/O error: " ++ fault.message

/-- Whether a place in the configuration belongs to the failure. -/
def isPlaced : Failure → Bool
  | .brokenJson _ => true
  | .brokenYaml fault => fault.isPlaced
  | _ => false

end Failure

/-- The layout that rows of labels make. -/
def Layout.build (rows : List (List String)) : Except Failure Layout :=
  (Layout.ofRows rows).mapError .invalidLayout

/-- The action that a scripted token asks for. -/
def Layout.readToken (layout : Layout) (token : String) : Except Failure Action :=
  match layout.readToken? token with
  | some action => .ok action
  | none => .error (.unknownToken token)

end AmountPad
