import AmountPad.Json.Reader
import AmountPad.Json.Writer
import AmountPad.Settings

/-!
# Settings as JSON

Settings are an object with the members `markup`, `controls` and `layout`; `markup` is an object
with the four identifiers. A reader takes the members in any order, fills in defaults for those that
are missing, passes over others, and refuses one that comes twice. Both objects may also be written
as lists of their members' values.

* `Settings.toJson` — the text of settings, over several lines;
* `Settings.ofJson` — reads that text.
-/

namespace AmountPad

open Json (Fault Node Reader)

namespace Markup

/-- The identifiers as a JSON object. -/
def toNode (m : Markup) : Node :=
  .object [("key_class", .text m.keyClass), ("display_id", .text m.displayId),
    ("clear_id", .text m.clearId), ("backspace_id", .text m.backspaceId)]

/-- What a text that is no markup is told to be. -/
def expected : String := "struct MarkupConfig"

/-- Takes one identifier. -/
def step (g : Given) (name : String) : Reader Given := fun ts => do
  let identifier := Reader.member (Reader.text "a string")
  match name with
  | "key_class" =>
    let (s, ts) ← identifier ts
    return ({ g with keyClass := some s }, ts)
  | "display_id" =>
    let (s, ts) ← identifier ts
    return ({ g with displayId := some s }, ts)
  | "clear_id" =>
    let (s, ts) ← identifier ts
    return ({ g with clearId := some s }, ts)
  | "backspace_id" =>
    let (s, ts) ← identifier ts
    return ({ g with backspaceId := some s }, ts)
  | _ => return (g, ← Reader.skipMember ts)

/-- The identifiers as an object or as a list. -/
def reader : Reader Markup
  | [] => .error .endInValue
  | .openObject :: ts => do
    let (g, ts) ← Reader.members Given.has step (ts.length + 1) true {} ts
    return (g.complete, ts)
  | .openList :: ts => do
    let identifier := Reader.text "a string"
    let (keyClass, ts) ← Reader.next? true identifier ts
    let (displayId, ts) ← Reader.next? false identifier ts
    let (clearId, ts) ← Reader.next? false identifier ts
    let (backspaceId, ts) ← Reader.next? false identifier ts
    return (Given.complete ⟨keyClass, displayId, clearId, backspaceId⟩, ← Reader.endList ts)
  | t :: _ => .error (Reader.mismatch expected t)

end Markup

namespace Settings

/-- The settings as a JSON object. -/
def toNode (s : Settings) : Node :=
  .object [("markup", s.markup.toNode), ("controls", .text s.policy.name),
    ("layout", .list (s.rows.map fun row => .list (row.map .text)))]

/-- The settings as JSON text. -/
def toJson (s : Settings) : String := String.ofList (s.toNode.pretty 0)

/-- What a text that is no settings is told to be. -/
def expected : String := "struct KeypadConfig"

/-- The labels of the keys, row by row. -/
def rowsReader : Reader (List (List String)) := Reader.list (Reader.list (Reader.text "a string"))

/-- Takes one part. -/
def step (g : Given) (name : String) : Reader Given := fun ts => do
  match name with
  | "markup" =>
    let (m, ts) ← Reader.member Markup.reader ts
    return ({ g with markup := some m }, ts)
  | "controls" =>
    let (p, ts) ← Reader.member (Reader.variant Policy.byName) ts
    return ({ g with policy := some p }, ts)
  | "layout" =>
    let (rows, ts) ← Reader.member rowsReader ts
    return ({ g with rows := some rows }, ts)
  | _ => return (g, ← Reader.skipMember ts)

/-- The settings as an object or as a list. -/
def reader : Reader Settings
  | [] => .error .endInValue
  | .openObject :: ts => do
    let (g, ts) ← Reader.members Given.has step (ts.length + 1) true {} ts
    return (g.complete, ts)
  | .openList :: ts => do
    let (markup, ts) ← Reader.next? true Markup.reader ts
    let (policy, ts) ← Reader.next? false (Reader.variant Policy.byName) ts
    let (rows, ts) ← Reader.next? false rowsReader ts
    return (Given.complete ⟨markup, policy, rows⟩, ← Reader.endList ts)
  | t :: _ => .error (Reader.mismatch expected t)

/-- Reads settings from JSON text. -/
def ofJson (text : String) : Except Fault Settings := Reader.ofText reader text

end Settings

end AmountPad
