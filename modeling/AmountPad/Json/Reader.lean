import AmountPad.Json.Token

/-!
# Readers of JSON values

A reader takes the tokens of one value from the front of a list. It stops at the first fault it
meets in the order of the text, whether that is a token out of place or a value of the wrong kind.

* `Reader.text`, `Reader.list`, `Reader.variant` — values of one kind;
* `Reader.members` — the members of an object, each handed to a function that knows the names;
* `Reader.skip` — any value at all, whatever its strings and numbers stand for;
* `Reader.found` — any value whose strings and numbers are sound, as a message names it;
* `Reader.ofText` — a reader applied to a whole text.
-/

namespace AmountPad.Json

/-- Takes one value from the front of a list of tokens. -/
abbrev Reader (α : Type) := List Token → Except Fault (α × List Token)

namespace Reader

/-! ## Values of the wrong kind -/

/-- The kind of the value that starts with a token. -/
def startOf : Token → Except Fault Found
  | .null => .ok .null
  | .bool b => .ok (.bool b)
  | .number n => n.found
  | .text t => t.decode.map .text
  | .openList => .ok .list
  | .openObject => .ok .object
  | .brokenNumber atEnd => .error (if atEnd then .endInValue else .invalidNumber)
  | .brokenWord atEnd => .error (if atEnd then .endInValue else .expectedWord)
  | _ => .error .expectedValue

/-- What to say of a token where a value of another kind is expected. -/
def mismatch (expected : String) (t : Token) : Fault :=
  match startOf t with
  | .ok found => .wrongType found expected
  | .error fault => fault

/-! ## Punctuation -/

/-- The colon between the name and the value of a member. -/
def colon : List Token → Except Fault (List Token)
  | .colon :: ts => .ok ts
  | [] => .error .endInObject
  | _ => .error .expectedColon

/-- Moves to the next item of a list, or stays in front of its end. -/
def nextItem? (first : Bool) : List Token → Except Fault (Option (List Token))
  | [] => .error .endInList
  | .closeList :: _ => .ok none
  | t :: ts =>
    if first then .ok (some (t :: ts))
    else if t = .comma then
      match ts with
      | [] => .error .endInValue
      | .closeList :: _ => .error .trailingComma
      | ts => .ok (some ts)
    else .error .expectedListEnd

/-- The end of a list that has no room for more items. -/
def endList : List Token → Except Fault (List Token)
  | .closeList :: ts => .ok ts
  | .comma :: .closeList :: _ => .error .trailingComma
  | [] => .error .endInList
  | _ => .error .trailingText

/-- Moves behind the next name of an object, or stays in front of its end. -/
def nextName? (first : Bool) : List Token → Except Fault (Option (String × List Token))
  | [] => .error .endInObject
  | .closeObject :: _ => .ok none
  | t :: ts =>
    if first then
      match t with
      | .text name => do return some (← name.decode, ts)
      | _ => .error .keyNotString
    else if t = .comma then
      match ts with
      | [] => .error .endInValue
      | .text name :: ts => do return some (← name.decode, ts)
      | .closeObject :: _ => .error .trailingComma
      | _ => .error .keyNotString
    else .error .expectedObjectEnd

/-! ## Values of one kind -/

/-- A string. -/
def text (expected : String) : Reader String
  | [] => .error .endInValue
  | .text t :: ts => do return (← t.decode, ts)
  | t :: _ => .error (mismatch expected t)

/-- The value null. -/
def null (expected : String) : Reader Unit
  | [] => .error .endInValue
  | .null :: ts => .ok ((), ts)
  | t :: _ => .error (mismatch expected t)

/-- The items of a list up to and with its end. The first argument bounds their number. -/
def items {α : Type} (item : Reader α) : Nat → Bool → Reader (List α)
  | 0, _, _ => .error .endInList
  | bound + 1, first, ts => do
    match ← nextItem? first ts with
    | none => return ([], ts.drop 1)
    | some ts =>
      let (a, ts) ← item ts
      let (as, ts) ← items item bound false ts
      return (a :: as, ts)

/-- A list of values. -/
def list {α : Type} (item : Reader α) : Reader (List α)
  | [] => .error .endInValue
  | .openList :: ts => items item (ts.length + 1) true ts
  | t :: _ => .error (mismatch "a sequence" t)

/-- The next value of a list, if the list goes on. -/
def next? {α : Type} (first : Bool) (reader : Reader α) : Reader (Option α) := fun ts => do
  match ← nextItem? first ts with
  | none => return (none, ts)
  | some ts =>
    let (a, ts) ← reader ts
    return (some a, ts)

/-- The value of a member. -/
def member {α : Type} (reader : Reader α) : Reader α := fun ts => do reader (← colon ts)

/-- The choice that a name makes. -/
def choose {α : Type} (choices : List (String × α)) (name : String) : Except Fault α :=
  match choices.lookup name with
  | some a => .ok a
  | none => .error (.unknownVariant name (choices.map Prod.fst))

/-- One of several named choices: the name, or an object that gives the name the value null. -/
def variant {α : Type} (choices : List (String × α)) : Reader α
  | [] => .error .endInValue
  | .text t :: ts => do return (← choose choices (← t.decode), ts)
  | .openObject :: ts =>
    match ts with
    | [] => .error .endInObject
    | .text t :: ts => do
      let a ← choose choices (← t.decode)
      let ((), ts) ← null "unit" (← colon ts)
      match ts with
      | .closeObject :: ts => return (a, ts)
      | [] => throw .endInObject
      | _ => throw .expectedValue
    | _ => .error .keyNotString
  | _ => .error .expectedValue

/-- One of several named choices, by its name only. -/
def choice {α : Type} (choices : List (String × α)) : Reader α := fun ts => do
  let (name, ts) ← text "variant identifier" ts
  return (← choose choices name, ts)

/-- The members of an object up to and with its end, each taken by a step that is given the name
and stands in front of the colon. A name that was given before is refused. The number bounds that of
the members. -/
def members {σ : Type} (has : σ → String → Bool) (step : σ → String → Reader σ) :
    Nat → Bool → σ → Reader σ
  | 0, _, _, _ => .error .endInObject
  | bound + 1, first, s, ts => do
    match ← nextName? first ts with
    | none => return (s, ts.drop 1)
    | some (name, ts) =>
      if has s name then throw (.duplicateField name)
      let (s, ts) ← step s name ts
      members has step bound false s ts

/-! ## Values of any kind -/

/-- A list or an object that has been opened. -/
inductive Frame where
  | list
  | object
  deriving DecidableEq, Repr

/-- Where a walk through a value stands. -/
inductive Place where
  | value
  /-- Behind an opening bracket. -/
  | opened
  | afterItem
  /-- Behind the comma of a list. -/
  | item
  /-- Behind the comma of an object. -/
  | name
  | colon
  deriving DecidableEq, Repr

/-- How closely a walk looks: a lax one only finds the end of the value; a strict one wants strings
that decode, numbers in range, and at most so many frames. -/
inductive Care where
  | lax
  | strict (depth : Nat)
  deriving DecidableEq, Repr

/-- Where a complete value leads: back into the frame around it, or to the end. -/
def completed : List Frame → Option (Place × List Frame)
  | [] => none
  | stack => some (.afterItem, stack)

/-- A token where a value has to start. -/
def stepValue (care : Care) (stack : List Frame) (t : Token) :
    Except Fault (Option (Place × List Frame)) :=
  let enter (frame : Frame) :=
    match care with
    | .lax => .ok (some (.opened, frame :: stack))
    | .strict depth =>
      if stack.length < depth then .ok (some (.opened, frame :: stack)) else .error .tooDeep
  match t with
  | .openList => enter .list
  | .openObject => enter .object
  | t =>
    match care, t with
    | .lax, .number _ => .ok (completed stack)
    | .lax, .brokenNumber _ => .error .invalidNumber
    | .lax, .text t =>
      match t.broken with
      | none => .ok (completed stack)
      | some b => .error b.fault
    | _, t => do
      discard (startOf t)
      return completed stack

/-- A token where a name has to stand. -/
def stepName (care : Care) (stack : List Frame) : Token → Except Fault (Option (Place × List Frame))
  | .text t =>
    match care, t.broken with
    | .lax, none => .ok (some (.colon, stack))
    | .lax, some b => .error b.fault
    | .strict _, _ => do
      discard t.decode
      return some (.colon, stack)
  | _ => .error .keyNotString

/-- One token of a walk through a value inside its frames. `none` says that the value is
complete. -/
def step (care : Care) : Place → List Frame → Token → Except Fault (Option (Place × List Frame))
  | .item, _, .closeList => .error (if care = .lax then .expectedValue else .trailingComma)
  | .item, stack, t => stepValue care stack t
  | .value, stack, t => stepValue care stack t
  | .opened, .list :: stack, .closeList => .ok (completed stack)
  | .opened, .object :: stack, .closeObject => .ok (completed stack)
  | .opened, .list :: stack, t => stepValue care (.list :: stack) t
  | .opened, stack, t => stepName care stack t
  | .afterItem, .list :: stack, .closeList => .ok (completed stack)
  | .afterItem, .object :: stack, .closeObject => .ok (completed stack)
  | .afterItem, .list :: stack, .comma => .ok (some (.item, .list :: stack))
  | .afterItem, .object :: stack, .comma => .ok (some (.name, .object :: stack))
  | .afterItem, .list :: _, _ => .error .expectedListEnd
  | .afterItem, _, _ => .error .expectedObjectEnd
  | .name, _, .closeObject => .error (if care = .lax then .keyNotString else .trailingComma)
  | .name, stack, t => stepName care stack t
  | .colon, stack, .colon => .ok (some (.value, stack))
  | .colon, _, _ => .error .expectedColon

/-- What is missing where the text ends within a value. -/
def atEnd (care : Care) : Place → List Frame → Fault
  | .value, _ => .endInValue
  | .item, _ => .endInValue
  | .opened, .list :: _ => .endInList
  | .afterItem, .list :: _ => .endInList
  | .name, _ => if care = .lax then .endInObject else .endInValue
  | _, _ => .endInObject

/-- Walks to the end of a value. -/
def walk (care : Care) : Place → List Frame → List Token → Except Fault (List Token)
  | place, stack, [] => .error (atEnd care place stack)
  | place, stack, t :: ts =>
    match step care place stack t with
    | .error fault => .error fault
    | .ok none => .ok ts
    | .ok (some (place, stack)) => walk care place stack ts

/-- Passes over a value without looking into it. -/
def skip (ts : List Token) : Except Fault (List Token) := walk .lax .value [] ts

/-- Passes over the value of a member. -/
def skipMember (ts : List Token) : Except Fault (List Token) := do skip (← colon ts)

/-- Reads a value of any kind, at most `depth` frames deep. -/
def found (depth : Nat) : Reader Found := fun ts => do
  let rest ← walk (.strict depth) .value [] ts
  match ts with
  | [] => throw .endInValue
  | t :: _ => return (← startOf t, rest)

/-! ## Whole texts -/

/-- Reads the one value of a text. -/
def ofText {α : Type} (reader : Reader α) (s : String) : Except Fault α := do
  let (a, ts) ← reader (tokens s.toList)
  match ts with
  | [] => return a
  | _ => throw .trailingText

end Reader

end AmountPad.Json
