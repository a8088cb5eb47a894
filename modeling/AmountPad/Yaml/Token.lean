import AmountPad.Yaml.Tag

/-!
# Tokens of YAML texts

The tokens between which a parse distinguishes. Block structure appears as tokens of its own:
indentation opens and closes collections, and a key that is recognised only by the colon behind it
is announced by a token in front of it.
-/

namespace AmountPad.Yaml

/-- How a scalar is written. -/
inductive Style where
  | plain
  | singleQuoted
  | doubleQuoted
  | literal
  | folded
  deriving DecidableEq, Repr

inductive Symbol where
  | versionDirective (major minor : Nat)
  | tagDirective (handle : String) (lead : Tag)
  | documentStart
  | documentEnd
  | textEnd
  | blockSequenceStart
  | blockMappingStart
  | blockEnd
  | flowSequenceStart
  | flowSequenceEnd
  | flowMappingStart
  | flowMappingEnd
  | blockEntry
  | flowEntry
  | key
  | value
  | aliasName (name : String)
  | anchor (name : String)
  | tag (handle : String) (suffix : Tag)
  | scalar (text : String) (style : Style)
  deriving DecidableEq, Repr

/-- A symbol and the places where it starts and stops. -/
structure Token where
  symbol : Symbol
  start : Mark
  stop : Mark
  deriving DecidableEq, Repr

end AmountPad.Yaml
