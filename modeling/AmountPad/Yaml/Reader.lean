import AmountPad.Yaml.Document
import AmountPad.Yaml.Resolve

/-!
# Readers of YAML values

A reader takes the items of one value from the front of a document's items. It stops at the first
thing that does not fit, and where the items end too early at the fault that ended them.

* `Reader.text`, `Reader.list`, `Reader.variant` — values of one kind;
* `Reader.members` — the members of a mapping, each handed to a function that knows the names;
* `Reader.skip` — any value at all;
* `Reader.ofText` — a reader applied to the one document of a text.

An alias stands for the node of its anchor. Following aliases is limited to a hundred times the
number of items, so that nested aliases cannot make a short text very long.
-/

namespace AmountPad.Yaml

/-- The items still to be read, and how many aliases were followed. -/
structure Place where
  rest : Items
  jumps : Nat := 0
  deriving DecidableEq, Repr

/-- Takes one value from the front; the text names the value in messages and is empty at the top. -/
abbrev Reader (α : Type) := Document → String → Place → Except Fault (α × Place)

namespace Reader

/-- The name of a member in messages. -/
def memberPath (path : String) (name : Option String) : String :=
  (if path = "" then "" else path ++ ".") ++ name.getD "?"

/-- The name of an item in messages. -/
def itemPath (path : String) (index : Nat) : String :=
  path ++ "[" ++ toString index ++ "]"

/-- The item in front. -/
def peek (d : Document) (p : Place) : Except Fault (Item × Mark) :=
  match p.rest with
  | x :: _ => .ok x
  | [] => .error (d.fault.getD .endOfText)

/-- The place behind the item in front. -/
def behind (p : Place) : Place := { p with rest := p.rest.drop 1 }

/-- The place of the node that a number stands for. -/
def follow (d : Document) (number : Nat) (p : Place) : Except Fault Place :=
  if d.items.length * 100 < p.jumps + 1 then .error .tooManyAliases
  else .ok ⟨d.items.drop ((d.targets.lookup number).getD d.items.length), p.jumps + 1⟩

/-- Reads a value from its first item. An alias is replaced by the node that it stands for, and the
reading then goes on behind the alias. The alias takes the blame for a misfit without a place. -/
def onItem {α : Type} (body : Item → Mark → Reader α) : Reader α := fun d path p => do
  let (item, mark) ← peek d p
  match item with
  | .aliasOf number =>
    let target ← follow d number (behind p)
    let (item, aliased) ← peek d target
    let (a, q) ← (body item aliased d path (behind target)).mapError (Fault.locate path mark)
    return (a, ⟨(behind p).rest, q.jumps⟩)
  | _ => body item mark d path (behind p)

/-- A value that does not fit its place. -/
def misfit {α : Type} (m : Misfit) (path : String) (mark : Mark) : Except Fault α :=
  .error (.misfit m (some (path, mark)))

/-- A value of another kind than its place wants. -/
def mismatch {α : Type} (item : Item) (expected path : String) (mark : Mark) : Except Fault α :=
  match item with
  | .scalar tag text style =>
    match Found.ofScalar tag text style with
    | .ok found => misfit (.wrongType found expected) path mark
    | .error m => misfit m path mark
  | .sequenceStart _ => misfit (.wrongType .sequence expected) path mark
  | .mappingStart _ => misfit (.wrongType .mapping expected) path mark
  | _ => .error .endOfText

/-- Whether an item stands for an empty collection: nothing at all, or a plain scalar of no text. -/
def isEmptyValue : Item → Bool
  | .nothing => true
  | .scalar _ "" .plain => true
  | _ => false

/-! ## Values of one kind -/

/-- The text of a scalar, whatever its tag and style. -/
def text (expected : String) : Reader String :=
  onItem fun item mark _ path p =>
    match item with
    | .scalar _ text _ => .ok (text, p)
    | item => mismatch item expected path mark

/-- The items of a sequence up to and with its end. The first argument bounds their number. -/
def items {α : Type} (item : Reader α) : Nat → Nat → Reader (List α)
  | 0, _, d, _, _ => .error (d.fault.getD .endOfText)
  | bound + 1, index, d, path, p => do
    match ← peek d p with
    | (.sequenceEnd, _) => return ([], behind p)
    | (.nothing, _) => return ([], behind p)
    | _ =>
      let (a, p) ← item d (itemPath path index) p
      let (as, p) ← items item bound (index + 1) d path p
      return (a :: as, p)

/-- A sequence of values. -/
def list {α : Type} (item : Reader α) : Reader (List α) :=
  onItem fun first mark d path p =>
    match first with
    | .sequenceStart _ => items item (d.items.length + 1) 0 d path p
    | first =>
      if isEmptyValue first then .ok ([], p) else mismatch first "a sequence" path mark

/-- A walk to the end of a value that is inside `depth` open collections. -/
def walk (d : Document) : Nat → Items → Except Fault Items
  | _, [] => .error (d.fault.getD .endOfText)
  | depth, (item, _) :: rest =>
    let depth := match item with
      | .sequenceStart _ => depth + 1
      | .mappingStart _ => depth + 1
      | .sequenceEnd => depth - 1
      | .mappingEnd => depth - 1
      | _ => depth
    if depth = 0 then .ok rest else walk d depth rest

/-- Passes over a value without looking into it. -/
def skip (d : Document) (p : Place) : Except Fault Place := do
  return { p with rest := ← walk d 0 p.rest }

/-- The name of a member as a message gives it; only a scalar has one. -/
def nameOf : Item → Option String
  | .scalar _ text _ => some text
  | _ => none

/-- The members of a mapping up to and with its end. Each is taken by a step that is given the name
of the member and its name in messages. A name that was given before is refused. The number bounds
that of the members. -/
def members {σ : Type} (has : σ → String → Bool) (step : σ → String → Reader σ) (mark : Mark) :
    Nat → σ → Reader σ
  | 0, _, d, _, _ => .error (d.fault.getD .endOfText)
  | bound + 1, s, d, path, p => do
    match ← peek d p with
    | (.mappingEnd, _) => return (s, behind p)
    | (.nothing, _) => return (s, behind p)
    | (first, _) =>
      let (name, p) ← text "field identifier" d path p
      if has s name then misfit (.duplicateField name) path mark
      let (s, p) ← step s name d (memberPath path (nameOf first)) p
      members has step mark bound s d path p

/-- A mapping whose members are taken one by one. It takes the blame for a misfit without a
place. -/
def mapping {σ : Type} (has : σ → String → Bool) (step : σ → String → Reader σ) (start : σ)
    (expected : String) : Reader σ :=
  onItem fun first mark d path p =>
    match first with
    | .mappingStart _ =>
      (members has step mark (d.items.length + 1) start d path p).mapError (Fault.locate path mark)
    | first =>
      if isEmptyValue first then .ok (start, p) else mismatch first expected path mark

/-- The choice that a name makes. The place is that of a name that makes none. -/
def choose {α : Type} (choices : List (String × α)) (name : String)
    (place : Option (String × Mark)) : Except Fault α :=
  match choices.lookup name with
  | some a => .ok a
  | none => .error (.misfit (.unknownVariant name (choices.map Prod.fst)) place)

/-- What stands behind a tag that makes a choice: nothing, or null without quotes. -/
def unit (item : Item) (mark : Mark) (path : String) : Except Fault Unit :=
  match item with
  | .scalar _ text style =>
    if style = .plain && (text = "" || isNull text) then .ok ()
    else misfit (.wrongValue text "null") path mark
  | item => mismatch item "unit" path mark

/-- One of several named choices: a scalar, or nothing behind a local tag. A tag that makes no
choice leaves it to what is around it to take the blame. -/
def variant {α : Type} (choices : List (String × α)) : Reader α :=
  onItem fun item mark _ path p =>
    let tagged (tag : Option Tag) (otherwise : Except Fault (α × Place)) :=
      match tag.bind Tag.choice? with
      | some name => do
        let a ← choose choices name none
        unit item mark path
        return (a, p)
      | none => otherwise
    match item with
    | .scalar tag text _ => tagged tag do return (← choose choices text (some (path, mark)), p)
    | .sequenceStart tag =>
      tagged tag (misfit (.wrongType .sequence "a YAML tag starting with '!'") path mark)
    | .mappingStart tag =>
      tagged tag (misfit (.wrongType .mapping "a YAML tag starting with '!'") path mark)
    | _ => .error .endOfText

/-! ## Whole texts -/

/-- Reads the one document of a text. -/
def ofText {α : Type} (reader : Reader α) (s : String) : Except Fault α := do
  let d := Document.ofText s.toList
  let (a, _) ← reader d "" { rest := d.items }
  match d.fault with
  | some fault => throw fault
  | none => if d.hasMore then throw .manyDocuments else return a

end Reader

end AmountPad.Yaml
