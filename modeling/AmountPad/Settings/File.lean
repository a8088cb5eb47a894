import AmountPad.Failure
import AmountPad.Settings.Json
import AmountPad.Settings.Yaml
import AmountPad.Text.Blank

/-!
# Settings in files

A file whose name ends in `.json` holds JSON; any other holds YAML.

* `Format.ofPath` — the format of a file by its name;
* `Settings.parse`, `Settings.render` — settings as the text of a format;
* `Settings.printed` — that text as a program prints it;
* `Settings.load` — the settings of a file;
* `Settings.prepare` — settings as a program runs with them: the policy that was asked for put in
  place of their own, and the layout known to be good.
-/

namespace AmountPad

/-- The formats of settings. -/
inductive Format where
  | yaml
  | json
  deriving DecidableEq, Repr

/-- The ending of a file's name: what follows its last dot, unless nothing comes before that. -/
def Format.ending? (name : String) : Option String :=
  let reversed := name.toList.reverse
  match reversed.dropWhile (· != '.') with
  | _ :: _ :: _ => some (String.ofList (reversed.takeWhile (· != '.')).reverse)
  | _ => none

/-- The format of the file at a path. -/
def Format.ofPath (path : String) : Format :=
  let name := String.ofList (path.toList.reverse.takeWhile (· != '/')).reverse
  if ending? name = some "json" then .json else .yaml

namespace Settings

/-- Reads the text of a format. -/
def parse (format : Format) (text : String) : Except Failure Settings :=
  match format with
  | .yaml => (ofYaml text).mapError .brokenYaml
  | .json => (ofJson text).mapError .brokenJson

/-- The text of settings in a format. -/
def render (s : Settings) : Format → String
  | .yaml => s.toYaml
  | .json => s.toJson

/-- The text of settings as it is printed: without blanks at its end, and one line break. -/
def printed (s : Settings) (format : Format) : String := Text.trimEnd (s.render format) ++ "\n"

/-- The settings in what was read from the file at a path. -/
def ofFile (path : String) (content : Except Files.Fault String) : Except Failure Settings := do
  parse (Format.ofPath path) (← content.mapError .file)

/-- Reads the settings of a file. -/
def load (files : Files) (path : String) : Except Failure Settings :=
  ofFile path (files.readText path)

/-- Settings for which a layout was built, with the policy that was asked for. -/
def prepare (s : Settings) (policy : Option Policy) : Except Failure Settings := do
  let s := { s with policy := policy.getD s.policy }
  let _ ← Layout.build s.rows
  return s

/-- The settings of a file, or the default ones, made ready to run with. -/
def start (files : Files) (path : Option String) (policy : Option Policy) :
    Except Failure Settings := do
  let s ← match path with
    | some path => load files path
    | none => pure {}
  s.prepare policy

end Settings

end AmountPad
