import AmountPad.Settings.Json
import AmountPad.Yaml.Reader
import AmountPad.Yaml.Writer

/-!
# Settings as YAML

The members are those of the JSON form, in any order and with the same defaults. A collection that
is left empty counts as an empty one.

* `Settings.toYaml` — the text of settings;
* `Settings.ofYaml` — reads that text.
-/

namespace AmountPad

open Yaml (Fault Reader)

namespace Markup

/-- Takes one identifier. -/
def yamlStep (g : Given) (name : String) : Reader Given := fun d path p => do
  let identifier := Reader.text "a string"
  match name with
  | "key_class" =>
    let (s, p) ← identifier d path p
    return ({ g with keyClass := some s }, p)
  | "display_id" =>
    let (s, p) ← identifier d path p
    return ({ g with displayId := some s }, p)
  | "clear_id" =>
    let (s, p) ← identifier d path p
    return ({ g with clearId := some s }, p)
  | "backspace_id" =>
    let (s, p) ← identifier d path p
    return ({ g with backspaceId := some s }, p)
  | _ => return (g, ← Reader.skip d p)

/-- The identifiers as a mapping. -/
def yamlReader : Reader Markup := fun d path p => do
  let (g, p) ← Reader.mapping Given.has yamlStep {} "struct MarkupConfig" d path p
  return (g.complete, p)

end Markup

namespace Settings

/-- The settings as YAML text. -/
def toYaml (s : Settings) : String := String.ofList (Yaml.Writer.write s.toNode)

/-- The labels of the keys, row by row. -/
def yamlRowsReader : Reader (List (List String)) :=
  Reader.list (Reader.list (Reader.text "a string"))

/-- Takes one part. -/
def yamlStep (g : Given) (name : String) : Reader Given := fun d path p => do
  match name with
  | "markup" =>
    let (m, p) ← Markup.yamlReader d path p
    return ({ g with markup := some m }, p)
  | "controls" =>
    let (policy, p) ← Reader.variant Policy.byName d path p
    return ({ g with policy := some policy }, p)
  | "layout" =>
    let (rows, p) ← yamlRowsReader d path p
    return ({ g with rows := some rows }, p)
  | _ => return (g, ← Reader.skip d p)

/-- The settings as a mapping. -/
def yamlReader : Reader Settings := fun d path p => do
  let (g, p) ← Reader.mapping Given.has yamlStep {} "struct KeypadConfig" d path p
  return (g.complete, p)

/-- Reads settings from YAML text. -/
def ofYaml (text : String) : Except Fault Settings := Reader.ofText yamlReader text

end Settings

end AmountPad
