import AmountPad.Layout

/-!
# Settings

What a pad is configured with: the identifiers by which a page offers its parts, how the two
controls are bound, and the labels of the keys. Every part has a default, so that a configuration
may leave out what it does not change.

* `Policy`, `Markup`, `Settings` — the parts and the whole;
* `Markup.Given`, `Settings.Given` — what a text has given part way through, and `complete`, which
  fills in the defaults.
-/

namespace AmountPad

/-- How the controls are bound. -/
inductive Policy where
  /-- Never, even where they exist. -/
  | disabled
  /-- Each one that exists. -/
  | optional
  /-- Both, or binding fails. -/
  | required
  deriving DecidableEq, Repr

def Policy.name : Policy → String
  | .disabled => "disabled"
  | .optional => "optional"
  | .required => "required"

/-- The policies by name. -/
def Policy.byName : List (String × Policy) :=
  [("disabled", .disabled), ("optional", .optional), ("required", .required)]

/-- The class and the identifiers by which a page offers the parts of a pad. -/
structure Markup where
  keyClass : String := "keypad"
  displayId : String := "satoshis"
  clearId : String := "clear"
  backspaceId : String := "backspace"
  deriving DecidableEq, Repr

namespace Markup

/-- The identifiers that a text gave so far. -/
structure Given where
  keyClass : Option String := none
  displayId : Option String := none
  clearId : Option String := none
  backspaceId : Option String := none
  deriving DecidableEq, Repr

namespace Given

/-- Whether a text gave the identifier of a name. -/
def has (g : Given) : String → Bool
  | "key_class" => g.keyClass.isSome
  | "display_id" => g.displayId.isSome
  | "clear_id" => g.clearId.isSome
  | "backspace_id" => g.backspaceId.isSome
  | _ => false

/-- Fills in the defaults. -/
def complete (g : Given) : Markup :=
  let d : Markup := {}
  ⟨g.keyClass.getD d.keyClass, g.displayId.getD d.displayId, g.clearId.getD d.clearId,
    g.backspaceId.getD d.backspaceId⟩

end Given

end Markup

/-- A complete configuration. The rows need not make a layout. -/
structure Settings where
  markup : Markup := {}
  policy : Policy := .optional
  rows : List (List String) := Layout.satoshiRows
  deriving DecidableEq, Repr

namespace Settings

/-- The parts that a text gave so far. -/
structure Given where
  markup : Option Markup := none
  policy : Option Policy := none
  rows : Option (List (List String)) := none
  deriving DecidableEq, Repr

namespace Given

/-- Whether a text gave the part of a name. -/
def has (g : Given) : String → Bool
  | "markup" => g.markup.isSome
  | "controls" => g.policy.isSome
  | "layout" => g.rows.isSome
  | _ => false

/-- Fills in the defaults. -/
def complete (g : Given) : Settings :=
  let d : Settings := {}
  ⟨g.markup.getD d.markup, g.policy.getD d.policy, g.rows.getD d.rows⟩

end Given

/-- The layout that the rows make. -/
def layout (s : Settings) : Except Layout.Flaw Layout := Layout.ofRows s.rows

end Settings

end AmountPad
