import AmountPad.Log
import AmountPad.Log.Pattern

/-!
# Log filters

A filter is a list of directives, each of which lets the records of some targets through up to a
level. Of the directives that concern a record the most specific one decides: the one with the
longest target, then the one that names more fields, then the one that comes last.

A text gives directives one by one, with commas between them. A directive is a level, a target, or
both with `=` between them; behind the target may stand, in brackets, a span and in braces a field
that a record has to have, and a pattern for its value. No record is inside a span, and fields hold
no value to compare, so that a directive that names a span or a value concerns none.

* `Filter.parse?` — reads a text;
* `Filter.enables` — whether a record gets through.
-/

namespace AmountPad.Log

/-- Lets records through whose target starts with a given one. -/
structure Directive where
  target : Option String := none
  /-- The fields that a record has to have. -/
  fields : List String := []
  /-- Whether a span or the value of a field is asked for. -/
  narrowed : Bool := false
  /-- The number of the least important level that gets through. -/
  level : Nat
  deriving DecidableEq, Repr

namespace Directive

/-- Whether a record is the directive's affair. -/
def concerns (d : Directive) (r : Record) : Bool :=
  !d.narrowed && (d.target.getD "").toList.isPrefixOf r.target.toList &&
    d.fields.all fun name => name == "message" || (r.fields.lookup name).isSome

/-- Whether a directive is at least as specific as another. -/
def atLeast (d e : Directive) : Bool :=
  let size (d : Directive) : Nat := d.target.elim 0 (·.utf8ByteSize + 1)
  size e < size d ∨ size e = size d ∧
    (e.fields.length < d.fields.length ∨
      e.fields.length = d.fields.length ∧ ¬ d.fields < e.fields)

/-! ## Reading -/

/-- The names of levels, and their numbers. -/
def levelNames : List (String × Nat) :=
  [("off", 0), ("error", 1), ("warn", 2), ("info", 3), ("debug", 4), ("trace", 5)]

/-- The number that a decimal numeral spells; a plus may stand in front. -/
def decimal? (s : List Char) : Option Nat :=
  let digits := if s.head? = some '+' then s.drop 1 else s
  if digits.isEmpty || !digits.all Char.isDigit then none
  else some (digits.foldl (fun n c => n * 10 + (c.toNat - '0'.toNat)) 0)

/-- A level by name, in either case, or by number. -/
def level? (s : List Char) : Option Nat :=
  match decimal? s with
  | some n => if n ≤ Level.trace.number then some n else none
  | none => levelNames.lookup (String.ofList s).toLower

/-- The level behind an `=`; where nothing stands there, all. -/
def levelOrAll? (s : List Char) : Option Nat :=
  if s.isEmpty then some Level.trace.number else level? s

/-- What stands behind the target, given the part of the text that is its level if there is one. -/
def levelPart? (rest level : List Char) : Option Nat :=
  match rest with
  | [] => some Level.trace.number
  | '=' :: _ => levelOrAll? level
  | _ => none

/-- Whether a directive can start with a character. -/
def canStart (c : Char) : Bool := Text.isAlphanumeric c || "-:_".toList.contains c

/-- Whether a text spells a real behind a plus sign. -/
def isPlusReal : List Char → Bool
  | '+' :: rest =>
    let whole := rest.takeWhile Char.isDigit
    let behind := rest.drop whole.length
    let fraction := if behind.head? = some '.' then (behind.drop 1).takeWhile Char.isDigit else []
    let behind := if behind.head? = some '.' then behind.drop (fraction.length + 1) else behind
    let power := match behind with
      | [] => true
      | c :: rest =>
        let rest := if rest.head? = some '+' ∨ rest.head? = some '-' then rest.drop 1 else rest
        (c == 'e' || c == 'E') && !rest.isEmpty && rest.all Char.isDigit
    !(whole ++ fraction).isEmpty && power ||
      ["inf", "infinity", "nan"].contains (String.ofList rest).toLower
  | _ => false

/-- What a directive asks of the value of a field: that it is a number, or matches a pattern.
Numbers are patterns too unless they have a plus sign. -/
def isValue (s : List Char) : Bool := isPlusReal s || isPattern s

/-- A field: its name, and whether a value is asked for. The value ends in front of a second `=`. -/
def field? (s : List Char) : Option (String × Bool) :=
  let name := s.takeWhile (· != '=')
  match s.drop name.length with
  | _ :: rest =>
    if isValue (rest.takeWhile (· != '=')) then some (String.ofList name, true) else none
  | [] => some (String.ofList name, false)

/-- A directive. Its parts are found in the text without the blanks around it, and taken from the
same places of the text with them. -/
def parse? (text : String) : Option Directive :=
  let whole := text.toList
  let s := Text.dropBlanksEnd (Text.dropBlanks whole)
  let head := s.takeWhile fun c => c != '=' && c != '['
  let part (start stop : Nat) : List Char := (whole.take stop).drop start
  let target := if head.isEmpty then none else some (String.ofList (whole.take head.length))
  if !head.isEmpty && !(head.head?.any canStart) then none
  else match s.drop head.length with
  | [] =>
    if head.isEmpty then none
    else match level? whole with
    | some n => some { level := n }
    | none => some { target := some text, level := Level.trace.number }
  | '=' :: _ =>
    if head.isEmpty then none
    else (levelOrAll? (whole.drop (head.length + 1))).map fun n => { target, level := n }
  | _ :: rest =>
    let span := rest.takeWhile fun c => c != ']' && c != '{'
    let start := head.length + 1 + span.length
    match rest.drop span.length with
    | ']' :: rest =>
      (levelPart? rest (whole.drop (start + 2))).map fun n =>
        { target, narrowed := true, level := n }
    | '{' :: rest =>
      let field := rest.takeWhile (· != '}')
      match field, rest.drop field.length with
      | _ :: _, '}' :: ']' :: rest => do
        let (name, valued) ← field? (part (start + 1) (start + 1 + field.length))
        let level ← levelPart? rest (whole.drop (start + 1 + field.length + 3))
        return { target, fields := [name], narrowed := !span.isEmpty || valued, level }
      | _, _ => none
    | _ => none

end Directive

/-- The directives of a filter. -/
abbrev Filter := List Directive

namespace Filter

/-- Reads directives with commas between them. Nothing between two commas is no directive. -/
def parse? (text : String) : Option Filter :=
  ((text.splitOn ",").filter fun piece => !piece.isEmpty).mapM Directive.parse?

/-- The directive that decides on a record. -/
def decisive? (f : Filter) (r : Record) : Option Directive :=
  (f.filter (·.concerns r)).foldl (fun best d =>
    match best with
    | some b => if d.atLeast b then some d else some b
    | none => some d) none

/-- Whether a record gets through. -/
def enables (f : Filter) (r : Record) : Bool :=
  match f.decisive? r with
  | some d => r.level.number ≤ d.level
  | none => false

/-- Nothing gets through where no directive concerns a record. -/
theorem enables_nil (r : Record) : enables [] r = false := rfl

end Filter

end AmountPad.Log
