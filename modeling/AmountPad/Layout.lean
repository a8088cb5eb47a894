import AmountPad.Action

/-!
# Layouts

A layout is a rectangular grid of labelled keys in row-major order.

* `Layout.ofRows` — reads rows of labels; it blames the first flaw it meets, row by row and in a
  row from left to right;
* `Layout.labelRows` — the labels as rows again;
* the lookups `keyAt?`, `positionOf?`, `findLabel?` and `findId?`;
* `Layout.actionOfKeyName?` and `Layout.readToken?` — what a keyboard key or a scripted token asks
  for on this layout.
-/

namespace AmountPad

/-- One key of a pad. -/
structure Key where
  /-- Text on the key, appended when it is activated. -/
  label : String
  /-- Identifier of the element that shows the key on a page. -/
  id : String
  row : Nat
  col : Nat
  deriving DecidableEq, Repr

namespace Key

/-- The identifier of the key at a grid position. -/
def idAt (row col : Nat) : String :=
  "key-" ++ toString row ++ "-" ++ toString col

/-- The key with a label at a grid position. -/
def ofLabel (label : String) (row col : Nat) : Key := ⟨label, idAt row col, row, col⟩

def action (key : Key) : Action := .append key.label

end Key

/-- Keys in row-major order over `rows` rows of `cols` keys. -/
structure Layout where
  keys : List Key
  rows : Nat
  cols : Nat
  deriving DecidableEq, Repr

namespace Layout

/-- Why rows of labels are no layout. -/
inductive Flaw where
  | noRows
  | emptyRows
  | ragged (row count expected : Nat)
  | emptyLabel (row col : Nat)
  | duplicateLabel (label : String)
  deriving DecidableEq, Repr

def Flaw.message : Flaw → String
  | .noRows => "layout has no rows"
  | .emptyRows => "layout rows are empty"
  | .ragged row count expected =>
    "row " ++ toString row ++ " has " ++ toString count ++ " keys, expected " ++ toString expected
  | .emptyLabel row col =>
    "key at row " ++ toString row ++ ", col " ++ toString col ++ " has an empty label"
  | .duplicateLabel label => "duplicate key label '" ++ label ++ "'"

/-! ## Reading rows of labels -/

/-- Checks the labels of one row from column `col` on against the labels `seen` before them. -/
def checkLabels (row : Nat) : Nat → List String → List String → Except Flaw (List String)
  | _, seen, [] => .ok seen
  | col, seen, label :: labels =>
    if label = "" then .error (.emptyLabel row col)
    else if label ∈ seen then .error (.duplicateLabel label)
    else checkLabels row (col + 1) (label :: seen) labels

/-- Checks the rows from index `row` on: first a row's width, then its labels. -/
def checkRows (width : Nat) : Nat → List String → List (List String) → Except Flaw Unit
  | _, _, [] => .ok ()
  | row, seen, labels :: rest =>
    if labels.length ≠ width then .error (.ragged row labels.length width)
    else do
      let seen ← checkLabels row 0 seen labels
      checkRows width (row + 1) seen rest

/-- The keys of one row from column `col` on. -/
def rowKeys (row : Nat) : Nat → List String → List Key
  | _, [] => []
  | col, label :: labels => .ofLabel label row col :: rowKeys row (col + 1) labels

/-- The keys of the rows from index `row` on. -/
def gridKeys : Nat → List (List String) → List Key
  | _, [] => []
  | row, labels :: rest => rowKeys row 0 labels ++ gridKeys (row + 1) rest

/-- Reads rows of labels. They must be non-empty and of equal width, and the labels non-empty and
different from each other. -/
def ofRows (rows : List (List String)) : Except Flaw Layout :=
  match rows with
  | [] => .error .noRows
  | [] :: _ => .error .emptyRows
  | first :: _ => do
    checkRows first.length 0 [] rows
    return ⟨gridKeys 0 rows, rows.length, first.length⟩

/-- The labels of the satoshi amount pad. -/
def satoshiRows : List (List String) :=
  [["1", "2", "3"], ["4", "5", "6"], ["7", "8", "9"], ["00", "0", "000"]]

/-- The satoshi amount pad. -/
def satoshi : Layout := ⟨gridKeys 0 satoshiRows, 4, 3⟩

/-! ## Lookups -/

/-- The labels as `rows` rows of `cols` labels. -/
def labelRows (layout : Layout) : List (List String) :=
  (List.range layout.rows).map fun row =>
    ((layout.keys.drop (row * layout.cols)).take layout.cols).map Key.label

def keyCount (layout : Layout) : Nat := layout.keys.length

def key? (layout : Layout) (index : Nat) : Option Key := layout.keys[index]?

/-- The key at a grid position; nothing outside the grid. -/
def keyAt? (layout : Layout) (row col : Nat) : Option Key :=
  if row < layout.rows ∧ col < layout.cols then layout.key? (row * layout.cols + col) else none

/-- The index of the key with a label. -/
def positionOf? (layout : Layout) (label : String) : Option Nat :=
  layout.keys.findIdx? (·.label == label)

/-- The key with a label. -/
def findLabel? (layout : Layout) (label : String) : Option Key :=
  layout.keys.find? (·.label == label)

/-- The key whose element has an identifier. -/
def findId? (layout : Layout) (id : String) : Option Key :=
  layout.keys.find? (·.id == id)

/-! ## Keyboard keys and tokens -/

/-- A control's key name comes first; any other name stands for the label that equals it. -/
def actionOfKeyName? (layout : Layout) (name : String) : Option Action :=
  (Action.ofKeyName? name).or ((layout.findLabel? name).map Key.action)

/-- The control that a scripted token names, whatever the case of its ASCII letters. -/
def controlOfToken? (token : String) : Option Control :=
  match token.toLower with
  | "clear" => some .clear
  | "c" => some .clear
  | "backspace" => some .backspace
  | "bs" => some .backspace
  | "<" => some .backspace
  | _ => none

/-- What a scripted token asks for: a label comes first, also one that spells a control. -/
def readToken? (layout : Layout) (token : String) : Option Action :=
  match layout.findLabel? token with
  | some key => some key.action
  | none => (controlOfToken? token).map Action.ofControl

end Layout

end AmountPad
