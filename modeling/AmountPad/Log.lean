import AmountPad.Action
import AmountPad.Settings
import AmountPad.Text.Paint
import AmountPad.Text.Visible

/-!
# Log records

A record says where something happened, how important it is, what it was, and a few named values.

* `Log.Level`, `Log.Record` — levels and records;
* `Record.line` — the line of a record;
* `Record.loaded`, `Record.ready`, `Record.replaying`, `Record.ran`, `Record.closed` — what a pad
  and the program around it record.
-/

namespace AmountPad.Log

/-- How important a record is. -/
inductive Level where
  | trace
  | debug
  | info
  | warn
  | error
  deriving DecidableEq, Repr

namespace Level

/-- The number of a level: the higher, the less important. -/
def number : Level → Nat
  | .error => 1
  | .warn => 2
  | .info => 3
  | .debug => 4
  | .trace => 5

/-- The mark in front of a line. -/
def marker : Level → String
  | .trace => "[ ]"
  | .debug => "[?]"
  | .info => "[+]"
  | .warn => "[*]"
  | .error => "[-]"

/-- How the mark is painted. -/
def paints : Level → List Text.Paint
  | .trace => [.dim]
  | .debug => [.blue]
  | .info => [.green, .bold]
  | .warn => [.yellow, .bold]
  | .error => [.red, .bold]

end Level

/-- Something that happened. -/
structure Record where
  level : Level
  /-- The part of the program where it happened. -/
  target : String
  message : String
  fields : List (String × String) := []
  deriving DecidableEq, Repr

/-- What is painted in a line. -/
structure Style where
  /-- The mark and the target. -/
  headPainted : Bool
  /-- The names of the fields. -/
  namesPainted : Bool
  deriving DecidableEq, Repr

namespace Record

/-- A field with its name. -/
def fieldText (painted : Bool) (name value : String) : String :=
  Text.paintIf painted [.italic] name ++ Text.paintIf painted [.dim] "=" ++ value

/-- The line of a record, with its line break. -/
def line (r : Record) (style : Style) : String :=
  " ".intercalate (
    [Text.paintIf style.headPainted r.level.paints r.level.marker,
      Text.paintIf style.headPainted [.dim] r.target, r.message] ++
    r.fields.map fun (name, value) => fieldText style.namesPainted name value) ++ "\n"

/-! ## What is recorded -/

/-- Settings were read from a file. -/
def loaded (path : String) (policy : Policy) : Record :=
  ⟨.debug, "satpad::config", "loaded keypad config", [("path", path), ("controls", policy.name)]⟩

/-- A pad is ready on the terminal. -/
def ready (keys : Nat) (policy : Policy) : Record :=
  ⟨.debug, "satpad::tui::app", "terminal keypad ready",
    [("keys", toString keys), ("policy", policy.name)]⟩

/-- A replay begins. -/
def replaying (tokens : Nat) : Record :=
  ⟨.info, "satpad_cli::runner", "replaying", [("tokens", toString tokens)]⟩

/-- An action was run, and the content is what it left; or it was refused. -/
def ran (action : Action) (applied : Bool) (content : String) : Record :=
  if applied then
    ⟨.trace, "satpad::core", "applied",
      [("action", action.describe), ("content", Text.quote content)]⟩
  else ⟨.trace, "satpad::core", "control not wired; ignoring", [("action", action.describe)]⟩

/-- An interactive pad was left. -/
def closed (content : String) : Record :=
  ⟨.info, "satpad_cli::runner", "keypad closed", [("content", Text.quote content)]⟩

end Record

end AmountPad.Log
